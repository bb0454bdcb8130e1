import RecordFilter.Proofs.Segment.Fixed

set_option autoImplicit false

namespace RecordFilter

namespace Worker

variable {σ α : Type} {source : Source σ α} {answer : Predicate → Except FilterError (List α)}

theorem advanceAt_sets (source : Source σ α) (i : Nat) (ws : List (CompiledSet × Worker α)) (s : σ) :
    (advanceAt source i ws s).1.map Prod.fst = ws.map Prod.fst := by
  induction ws generalizing i with
  | nil => rw [advanceAt]
  | cons x ws ih =>
    obtain ⟨set, w⟩ := x
    cases i with
    | zero => rfl
    | succ i => exact congrArg (set :: ·) (ih i)

theorem follow_sets (source : Source σ α) (schedule : List WorkerStep) (ws : List (CompiledSet × Worker α)) (s : σ) :
    (follow source schedule ws s).1.map Prod.fst = ws.map Prod.fst := by
  induction schedule generalizing ws s with
  | nil => rfl
  | cons step schedule ih =>
    cases step with
    | cancel => exact ih ws _
    | advance i => exact (ih _ _).trans (advanceAt_sets source i ws s)

theorem length_completeAll (source : Source σ α) (ws : List (CompiledSet × Worker α)) (s : σ) :
    (completeAll source ws s).1.length = ws.length := by
  induction ws generalizing s with
  | nil => rfl
  | cons x ws ih =>
    obtain ⟨set, w⟩ := x
    exact congrArg (· + 1) (ih _)

theorem isCancelled_advance (h : source.HasAnswers answer) (set : CompiledSet) (w : Worker α) (s : σ) :
    source.isCancelled (w.advance source set s).2 = source.isCancelled s := by
  cases w with
  | waiting => rfl
  | admitted => exact h.isCancelled_matching set.predicate s
  | ended outcome => rfl

theorem isCancelled_advanceAt (h : source.HasAnswers answer) (i : Nat) (ws : List (CompiledSet × Worker α)) (s : σ) :
    source.isCancelled (advanceAt source i ws s).2 = source.isCancelled s := by
  induction ws generalizing i with
  | nil => rw [advanceAt]
  | cons x ws ih =>
    obtain ⟨set, w⟩ := x
    cases i with
    | zero => exact isCancelled_advance h set w s
    | succ i => exact ih i

theorem isCancelled_follow (h : source.HasAnswers answer) (schedule : List WorkerStep)
    (ws : List (CompiledSet × Worker α)) (s : σ) :
    source.isCancelled (follow source schedule ws s).2 =
      (source.isCancelled s || decide (WorkerStep.cancel ∈ schedule)) := by
  induction schedule generalizing ws s with
  | nil => simp [follow]
  | cons step schedule ih =>
    cases step with
    | cancel =>
      rw [follow, ih, h.isCancelled_cancel]
      simp
    | advance i =>
      change source.isCancelled (follow source schedule _ (advanceAt source i ws s).2).2 = _
      rw [ih, isCancelled_advanceAt h]
      simp

theorem isCancelled_complete (h : source.HasAnswers answer) (set : CompiledSet) (w : Worker α) (s : σ) :
    source.isCancelled (w.complete source set s).2 = source.isCancelled s := by
  cases w with
  | waiting => exact h.isCancelled_ask set.predicate s
  | admitted => exact h.isCancelled_matching set.predicate s
  | ended outcome => rfl

def Brings (answer : Predicate → Except FilterError (List α)) (raised : Bool) (set : CompiledSet)
    (outcome : Except Stop (List α)) : Prop :=
  outcome = (answer set.predicate).mapError .failed ∨ raised = true ∧ outcome = .error (.failed .cancelled)

def IsFaithful (answer : Predicate → Except FilterError (List α)) (raised : Bool) : CompiledSet × Worker α → Prop
  | (set, ended outcome) => Brings answer raised set outcome
  | _ => True

theorem IsFaithful.mono {raised raised' : Bool} (le : raised = true → raised' = true) {x : CompiledSet × Worker α}
    (h : IsFaithful answer raised x) : IsFaithful answer raised' x := by
  obtain ⟨set, w⟩ := x
  cases w with
  | waiting => trivial
  | admitted => trivial
  | ended outcome => exact Or.imp_right (And.imp_left le) h

theorem brings_ask (h : source.HasAnswers answer) (set : CompiledSet) (s : σ) :
    Brings answer (source.isCancelled s) set (source.ask set.predicate s).1 := by
  cases low : source.isCancelled s with
  | true =>
    rw [Source.ask, if_pos low]
    exact Or.inr ⟨rfl, rfl⟩
  | false => exact Or.inl (h.ask set.predicate low)

theorem isFaithful_advance (h : source.HasAnswers answer) {set : CompiledSet} {w : Worker α} {s : σ}
    (faithful : IsFaithful answer (source.isCancelled s) (set, w)) :
    IsFaithful answer (source.isCancelled s) (set, (w.advance source set s).1) := by
  cases w with
  | waiting =>
    rw [advance]
    cases low : source.isCancelled s with
    | true => exact Or.inr ⟨rfl, rfl⟩
    | false => trivial
  | admitted => exact Or.inl (h.matching set.predicate s)
  | ended outcome => exact faithful

theorem isFaithful_advanceAt (h : source.HasAnswers answer) {ws : List (CompiledSet × Worker α)} {s : σ}
    (faithful : ∀ x ∈ ws, IsFaithful answer (source.isCancelled s) x) (i : Nat) :
    ∀ x ∈ (advanceAt source i ws s).1, IsFaithful answer (source.isCancelled s) x := by
  induction ws generalizing i with
  | nil =>
    rw [advanceAt]
    exact faithful
  | cons x ws ih =>
    obtain ⟨set, w⟩ := x
    rw [List.forall_mem_cons] at faithful
    cases i with
    | zero =>
      rw [advanceAt, List.forall_mem_cons]
      exact ⟨isFaithful_advance h faithful.1, faithful.2⟩
    | succ i =>
      rw [advanceAt, List.forall_mem_cons]
      exact ⟨faithful.1, ih faithful.2 i⟩

/-- After every schedule, the workers that have ended bring what they may. -/
theorem isFaithful_follow (h : source.HasAnswers answer) (schedule : List WorkerStep)
    {ws : List (CompiledSet × Worker α)} {s : σ} (faithful : ∀ x ∈ ws, IsFaithful answer (source.isCancelled s) x) :
    ∀ x ∈ (follow source schedule ws s).1,
      IsFaithful answer (source.isCancelled (follow source schedule ws s).2) x := by
  induction schedule generalizing ws s with
  | nil => exact faithful
  | cons step schedule ih =>
    cases step with
    | cancel =>
      refine ih fun x hx => (faithful x hx).mono fun _ => ?_
      exact h.isCancelled_cancel s
    | advance i =>
      refine ih ?_
      rw [isCancelled_advanceAt h]
      exact isFaithful_advanceAt h faithful i

theorem brings_complete (h : source.HasAnswers answer) {set : CompiledSet} {w : Worker α} {s : σ}
    (faithful : IsFaithful answer (source.isCancelled s) (set, w)) :
    Brings answer (source.isCancelled s) set (w.complete source set s).1 := by
  cases w with
  | waiting => exact brings_ask h set s
  | admitted => exact Or.inl (h.matching set.predicate s)
  | ended outcome => exact faithful

theorem brings_completeAll (h : source.HasAnswers answer) {ws : List (CompiledSet × Worker α)} {s : σ}
    (faithful : ∀ x ∈ ws, IsFaithful answer (source.isCancelled s) x) :
    List.Forall₂ (Brings answer (source.isCancelled s)) (ws.map Prod.fst) (completeAll source ws s).1 := by
  induction ws generalizing s with
  | nil => exact .nil
  | cons x ws ih =>
    obtain ⟨set, w⟩ := x
    have state := isCancelled_complete h set w s
    rw [List.forall_mem_cons] at faithful
    have rest := ih (s := (w.complete source set s).2) (by rw [state]; exact faithful.2)
    rw [state] at rest
    exact .cons (brings_complete h faithful.1) rest

/-- A worker that has not been let through, or has been turned away. -/
def IsHeldBack : CompiledSet × Worker α → Prop
  | (_, waiting) => True
  | (_, admitted) => False
  | (_, ended outcome) => outcome = .error (.failed .cancelled)

theorem isHeldBack_advanceAt {ws : List (CompiledSet × Worker α)} {s : σ} (raised : source.isCancelled s = true)
    (held : ∀ x ∈ ws, IsHeldBack x) (i : Nat) : ∀ x ∈ (advanceAt source i ws s).1, IsHeldBack x := by
  induction ws generalizing i with
  | nil =>
    rw [advanceAt]
    exact held
  | cons x ws ih =>
    obtain ⟨set, w⟩ := x
    rw [List.forall_mem_cons] at held
    cases i with
    | succ i =>
      rw [advanceAt, List.forall_mem_cons]
      exact ⟨held.1, ih held.2 i⟩
    | zero =>
      rw [advanceAt, List.forall_mem_cons]
      refine ⟨?_, held.2⟩
      cases w with
      | waiting =>
        rw [advance, if_pos raised]
        rfl
      | admitted => exact held.1.elim
      | ended outcome => exact held.1

theorem isHeldBack_follow (h : source.HasAnswers answer) (schedule : List WorkerStep)
    {ws : List (CompiledSet × Worker α)} {s : σ} (raised : source.isCancelled s = true)
    (held : ∀ x ∈ ws, IsHeldBack x) : ∀ x ∈ (follow source schedule ws s).1, IsHeldBack x := by
  induction schedule generalizing ws s with
  | nil => exact held
  | cons step schedule ih =>
    cases step with
    | cancel => exact ih (h.isCancelled_cancel s) held
    | advance i =>
      exact ih ((isCancelled_advanceAt h i ws s).trans raised) (isHeldBack_advanceAt raised held i)

theorem completeAll_of_isHeldBack (h : source.HasAnswers answer) {ws : List (CompiledSet × Worker α)} {s : σ}
    (raised : source.isCancelled s = true) (held : ∀ x ∈ ws, IsHeldBack x) :
    ∀ outcome ∈ (completeAll source ws s).1, outcome = .error (.failed .cancelled) := by
  induction ws generalizing s with
  | nil =>
    intro outcome none
    cases none
  | cons x ws ih =>
    obtain ⟨set, w⟩ := x
    rw [List.forall_mem_cons] at held
    rw [completeAll, List.forall_mem_cons]
    refine ⟨?_, ih ((isCancelled_complete h set w s).trans raised) held.2⟩
    cases w with
    | waiting =>
      rw [complete, Source.ask, if_pos raised]
    | admitted => exact held.1.elim
    | ended outcome => exact held.1

end Worker

namespace CompiledSegment

variable {σ α : Type} {source : Source σ α} {answer : Predicate → Except FilterError (List α)}

theorem forall_mem_waiting {p : CompiledSet × Worker α → Prop} (sets : List CompiledSet)
    (h : ∀ set, p (set, .waiting)) : ∀ x ∈ sets.map fun set => (set, (.waiting : Worker α)), p x := by
  intro x hx
  obtain ⟨set, -, rfl⟩ := List.mem_map.1 hx
  exact h set

theorem length_outcomes (c : CompiledSegment) (source : Source σ α) (schedule : List WorkerStep) (s : σ) :
    (c.outcomes source schedule s).1.length = c.sets.length := by
  have sets := congrArg List.length (Worker.follow_sets source schedule (c.sets.map fun set => (set, .waiting)) s)
  rw [List.length_map, List.length_map, List.length_map] at sets
  exact (Worker.length_completeAll source _ _).trans sets

/-- The workers bring what they may, given how the flag stands in the end. -/
theorem brings_outcomes (h : source.HasAnswers answer) (c : CompiledSegment) (schedule : List WorkerStep) (s : σ) :
    List.Forall₂ (Worker.Brings answer (source.isCancelled s || decide (WorkerStep.cancel ∈ schedule))) c.sets
      (c.outcomes source schedule s).1 := by
  have brings := Worker.brings_completeAll h
    (Worker.isFaithful_follow h schedule (s := s) (forall_mem_waiting c.sets fun _ => trivial))
  rw [Worker.follow_sets, List.map_map, Function.comp_def, List.map_id', Worker.isCancelled_follow h] at brings
  exact brings

theorem outcomes_of_isCancelled (h : source.HasAnswers answer) (c : CompiledSegment) (schedule : List WorkerStep)
    {s : σ} (raised : source.isCancelled s = true) :
    ∀ outcome ∈ (c.outcomes source schedule s).1, outcome = .error (.failed .cancelled) := by
  refine Worker.completeAll_of_isHeldBack h ?_
    (Worker.isHeldBack_follow h schedule raised (forall_mem_waiting c.sets fun _ => trivial))
  rw [Worker.isCancelled_follow h, raised, Bool.true_or]

theorem any_isPanic_eq_false {raised : Bool} {sets : List CompiledSet} {outcomes : List (Except Stop (List α))}
    (h : List.Forall₂ (Worker.Brings answer raised) sets outcomes) : outcomes.any isPanic = false := by
  induction h with
  | nil => rfl
  | @cons set outcome _ _ ho _ ih =>
    rw [List.any_cons, ih, Bool.or_false]
    rcases ho with rfl | ⟨-, rfl⟩
    · cases answer set.predicate <;> rfl
    · rfl

/-- The workers of a run give together what the sets give one after another, or they see the flag raised. -/
theorem join_of_brings {raised : Bool} {sets : List CompiledSet} {outcomes : List (Except Stop (List α))}
    (h : List.Forall₂ (Worker.Brings answer raised) sets outcomes) :
    join outcomes = (sets.mapM fun set => answer set.predicate).mapError .failed ∨
      raised = true ∧ join outcomes = .error (.failed .cancelled) := by
  induction h with
  | nil => exact Or.inl rfl
  | @cons set outcome sets outcomes ho hrest ih =>
    have calm := any_isPanic_eq_false hrest
    rw [Outcome.mapM_cons]
    rcases ho with rfl | ⟨raised, rfl⟩
    · cases answer set.predicate with
      | error e =>
        refine Or.inl ?_
        rw [Except.mapError, join, if_neg (by rw [calm]; exact Bool.false_ne_true)]
        rfl
      | ok as =>
        rw [Except.mapError, join]
        refine ih.imp (fun same => ?_) (And.imp_right fun cancelled => ?_)
        · rw [same]
          cases sets.mapM fun set => answer set.predicate <;> rfl
        · rw [cancelled]
          rfl
    · refine Or.inr ⟨raised, ?_⟩
      rw [join, if_neg (by rw [calm]; exact Bool.false_ne_true)]
      rfl

theorem join_of_cancelled {outcomes : List (Except Stop (List α))} (nonempty : outcomes ≠ [])
    (h : ∀ outcome ∈ outcomes, outcome = .error (.failed .cancelled)) :
    join outcomes = .error (.failed .cancelled) := by
  cases outcomes with
  | nil => contradiction
  | cons outcome rest =>
    rw [List.forall_mem_cons] at h
    obtain ⟨rfl, h⟩ := h
    have calm : rest.any isPanic = false := by
      rw [List.any_eq_false]
      intro outcome member
      rw [h outcome member]
      exact Bool.false_ne_true
    rw [join, if_neg (by rw [calm]; exact Bool.false_ne_true)]
    rfl

theorem sets_ne_nil {c : CompiledSegment} (several : 2 ≤ c.sets.length) : c.sets ≠ [] := by
  rintro none
  rw [none] at several
  contradiction

variable [HasFields α] [Sorter]

/-- A run with workers gives what the sets give one after another, or somebody has raised the flag. -/
theorem executeParallel_result (h : source.HasAnswers answer) {c : CompiledSegment} (several : 2 ≤ c.sets.length)
    (schedule : List WorkerStep) (s : σ) :
    (c.executeParallel source schedule s).result = (FixedSource.store answer).outcome c ∨
      (source.isCancelled s = true ∨ WorkerStep.cancel ∈ schedule) ∧
        (c.executeParallel source schedule s).result = .error (.failed .cancelled) := by
  rw [executeParallel_eq_settle several, settle_result, FixedSource.outcome_of_ne_nil _ (sets_ne_nil several)]
  refine (join_of_brings (c.brings_outcomes h schedule s)).imp (fun joined => ?_) fun ⟨raised, joined⟩ => ⟨?_, ?_⟩
  · rw [joined]
    rfl
  · rwa [Bool.or_eq_true, decide_eq_true_eq] at raised
  · rw [joined]
    rfl

theorem executeParallel_of_calm (h : source.HasAnswers answer) {c : CompiledSegment} (several : 2 ≤ c.sets.length)
    {schedule : List WorkerStep} (calm : WorkerStep.cancel ∉ schedule) {s : σ} (low : source.isCancelled s = false) :
    (c.executeParallel source schedule s).result = (FixedSource.store answer).outcome c := by
  rcases executeParallel_result h several schedule s with same | ⟨raised | raised, -⟩
  · exact same
  · rw [low] at raised
    cases raised
  · exact absurd raised calm

theorem executeParallel_of_isCancelled (h : source.HasAnswers answer) {c : CompiledSegment}
    (several : 2 ≤ c.sets.length) (schedule : List WorkerStep) {s : σ} (raised : source.isCancelled s = true) :
    (c.executeParallel source schedule s).result = .error (.failed .cancelled) := by
  have nonempty : (c.outcomes source schedule s).1 ≠ [] := by
    rw [← List.length_pos_iff, length_outcomes]
    omega
  rw [executeParallel_eq_settle several, settle_result,
    join_of_cancelled nonempty (c.outcomes_of_isCancelled h schedule raised)]
  rfl

end CompiledSegment

/-- With nobody to raise the flag, workers change nothing. -/
theorem Source.IsLawful.executeParallel_result {σ α : Type} [HasFields α] [Sorter] {source : Source σ α}
    {answer : Predicate → Except FilterError (List α)} (h : source.IsLawful answer) (c : CompiledSegment)
    {schedule : List WorkerStep} (calm : WorkerStep.cancel ∉ schedule) {s : σ} (low : source.isCancelled s = false) :
    (c.executeParallel source schedule s).result = (FixedSource.store answer).outcome c := by
  by_cases several : 2 ≤ c.sets.length
  · exact CompiledSegment.executeParallel_of_calm h.toHasAnswers several calm low
  · rw [CompiledSegment.executeParallel, if_pos (by omega), h.execute_result c low]

end RecordFilter
