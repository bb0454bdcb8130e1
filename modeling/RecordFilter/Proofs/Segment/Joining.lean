import Mathlib
import RecordFilter.Proofs.Segment.Calls
import RecordFilter.Proofs.Segment.Workers

set_option autoImplicit false

/-!
# What runs with workers come to

A run waits for its workers in the order of the sets, up to the first that brings no records, and reports the failure
of that one. It never hears of a panic behind it: that one ends the run. And whenever the flag is raised while the
workers are on their way, the run is either cancelled or what it would have been without anybody raising it.
-/

namespace RecordFilter.CompiledSegment

variable {σ α : Type}

def results (c : CompiledSegment) (source : Source σ α) (schedule : List WorkerStep) (s : σ) :
    List (CompiledSet × Except Stop (List α)) :=
  c.sets.zip (c.outcomes source schedule s).1

/-- The set has brought no records, though every set of a lower sort value has. -/
structure FailsFirst (results : List (CompiledSet × Except Stop (List α))) (set : CompiledSet) (stop : Stop) : Prop where
  failed : (set, .error stop) ∈ results
  below : ∀ x ∈ results, x.1.sort < set.sort → ∃ as, x.2 = .ok as

def PanicsAbove (results : List (CompiledSet × Except Stop (List α))) (set : CompiledSet) : Prop :=
  ∃ x ∈ results, set.sort < x.1.sort ∧ x.2 = .error .panicked

theorem any_isPanic_iff {outcomes : List (Except Stop (List α))} :
    outcomes.any isPanic = true ↔ .error .panicked ∈ outcomes := by
  rw [List.any_eq_true]
  constructor
  · rintro ⟨outcome, member, panicked⟩
    match outcome with
    | .error .panicked => exact member
  · intro member
    exact ⟨_, member, rfl⟩

theorem join_map_ok (subsets : List (List α)) : join (subsets.map .ok) = .ok subsets := by
  induction subsets with
  | nil => rfl
  | cons as subsets ih =>
    rw [List.map_cons, join, ih]
    rfl

theorem join_append_error (before : List (List α)) (stop : Stop) (after : List (Except Stop (List α))) :
    join (before.map .ok ++ .error stop :: after) =
      if after.any isPanic then .error .panicked else .error (.failed (reported stop)) := by
  induction before with
  | nil => rfl
  | cons as before ih =>
    rw [List.map_cons, List.cons_append, join, ih]
    split <;> rfl

theorem exists_map_ok {results : List (CompiledSet × Except Stop (List α))} (h : ∀ x ∈ results, ∃ as, x.2 = .ok as) :
    ∃ subsets : List (List α), results.map Prod.snd = subsets.map .ok := by
  induction results with
  | nil => exact ⟨[], rfl⟩
  | cons x results ih =>
    rw [List.forall_mem_cons] at h
    obtain ⟨as, hx⟩ := h.1
    obtain ⟨subsets, hresults⟩ := ih h.2
    refine ⟨as :: subsets, ?_⟩
    rw [List.map_cons, List.map_cons, hx, hresults]

section Sorted

variable {results : List (CompiledSet × Except Stop (List α))}

theorem exists_failsFirst (sorted : results.Pairwise fun x y => x.1.sort < y.1.sort) :
    (∀ x ∈ results, ∃ as, x.2 = .ok as) ∨ ∃ set stop, FailsFirst results set stop := by
  induction results with
  | nil => exact Or.inl fun x none => absurd none (List.not_mem_nil)
  | cons x results ih =>
    obtain ⟨set, outcome⟩ := x
    rw [List.pairwise_cons] at sorted
    cases outcome with
    | error stop =>
      refine Or.inr ⟨set, stop, List.mem_cons_self, fun y hy lower => ?_⟩
      rcases List.mem_cons.1 hy with rfl | hy
      · exact (Int64.lt_irrefl lower).elim
      · exact absurd lower (Int64.lt_asymm (sorted.1 y hy))
    | ok as =>
      refine (ih sorted.2).imp (fun h => ?_) fun ⟨later, stop, h⟩ => ⟨later, stop, ?_, ?_⟩
      · exact List.forall_mem_cons.2 ⟨⟨as, rfl⟩, h⟩
      · exact List.mem_cons_of_mem _ h.failed
      · exact List.forall_mem_cons.2 ⟨fun _ => ⟨as, rfl⟩, h.below⟩

/-- The sets below the first failure stand before it and those above it behind it, where nobody waits for them. -/
theorem FailsFirst.join {set : CompiledSet} {stop : Stop} (h : FailsFirst results set stop)
    (sorted : results.Pairwise fun x y => x.1.sort < y.1.sort) :
    (PanicsAbove results set → join (results.map Prod.snd) = .error .panicked) ∧
      (¬ PanicsAbove results set → join (results.map Prod.snd) = .error (.failed (reported stop))) := by
  obtain ⟨left, right, rfl⟩ := List.append_of_mem h.failed
  rw [List.pairwise_append, List.pairwise_cons] at sorted
  obtain ⟨-, ⟨above, -⟩, between⟩ := sorted
  have lower : ∀ x ∈ left, x.1.sort < set.sort := fun x hx => between x hx _ List.mem_cons_self
  obtain ⟨before, hleft⟩ := exists_map_ok fun x hx => h.below x (List.mem_append_left _ hx) (lower x hx)
  have unheard : PanicsAbove (left ++ (set, .error stop) :: right) set ↔ (right.map Prod.snd).any isPanic = true := by
    rw [any_isPanic_iff, List.mem_map]
    constructor
    · rintro ⟨x, hx, higher, panicked⟩
      rcases List.mem_append.1 hx with hx | hx
      · exact absurd higher (Int64.lt_asymm (lower x hx))
      · rcases List.mem_cons.1 hx with rfl | hx
        · exact (Int64.lt_irrefl higher).elim
        · exact ⟨x, hx, panicked⟩
    · rintro ⟨x, hx, panicked⟩
      exact ⟨x, List.mem_append_right _ (List.mem_cons_of_mem _ hx), above x hx, panicked⟩
  rw [List.map_append, List.map_cons, hleft, join_append_error, unheard]
  exact ⟨fun panics => if_pos panics, fun calm => if_neg calm⟩

end Sorted

/-- A source whose calls come to what a script says, one after another. -/
def scripted : Source (List (Except Stop (List α))) α where
  matching
    | _, [] => (.ok [], [])
    | _, outcome :: script => (outcome, script)
  count _ script := (.ok 0, script)
  window _ _ _ _ script := (.ok [], script)
  isCancelled _ := false
  cancel := id

theorem completeAll_scripted (sets : List CompiledSet) (script : List (Except Stop (List α)))
    (length : script.length = sets.length) :
    (Worker.completeAll scripted (sets.map fun set => (set, .waiting)) script).1 = script := by
  induction sets generalizing script with
  | nil =>
    rw [List.length_eq_zero_iff.1 length]
    rfl
  | cons set sets ih =>
    cases script with
    | nil => contradiction
    | cons outcome script => exact congrArg (outcome :: ·) (ih script (Nat.succ.inj length))

/-- Whatever may come of the workers does come of them in some run. -/
theorem outcomes_scripted (c : CompiledSegment) {script : List (Except Stop (List α))}
    (length : script.length = c.sets.length) : (c.outcomes scripted [] script).1 = script :=
  completeAll_scripted c.sets script length

variable [HasFields α]

/-- Whatever comes of the workers, their run ends with what the records make that they bring, or else with the failure
of the lowest set that has brought none; unless a set above that one has panicked. Nothing else makes the run panic but
records that cannot be sorted. -/
theorem executeParallel_of_results [Sorter] {k : Compiler} {segment : Segment} {c : CompiledSegment}
    (h : k.compileSegment segment = .ok c) (several : 2 ≤ c.sets.length) (source : Source σ α)
    (schedule : List WorkerStep) (s : σ) :
    (∀ subsets, (c.outcomes source schedule s).1 = subsets.map .ok →
        (c.executeParallel source schedule s).result = c.pageOf subsets) ∧
      (∀ set stop, FailsFirst (c.results source schedule s) set stop →
        ¬ PanicsAbove (c.results source schedule s) set →
          (c.executeParallel source schedule s).result = .error (.failed (reported stop))) ∧
      ((c.executeParallel source schedule s).result = .error .panicked ↔
        (∃ set stop, FailsFirst (c.results source schedule s) set stop ∧
          PanicsAbove (c.results source schedule s) set) ∨
        ∃ subsets, (c.outcomes source schedule s).1 = subsets.map .ok ∧ c.SortPanics subsets) := by
  have length := c.length_outcomes source schedule s
  have sorted : (c.results source schedule s).Pairwise fun x y => x.1.sort < y.1.sort := by
    have sets := (k.compileSegment_eq_ok_iff.1 h).pairwise_sort_lt
    have zipped : (c.results source schedule s).map Prod.fst = c.sets := List.map_fst_zip (by omega)
    rwa [← zipped, List.pairwise_map] at sets
  have outcomes : (c.results source schedule s).map Prod.snd = (c.outcomes source schedule s).1 :=
    List.map_snd_zip (by omega)
  have joined : (c.executeParallel source schedule s).result =
      join ((c.results source schedule s).map Prod.snd) >>= c.pageOf := by
    rw [executeParallel_eq_settle several, settle_result, outcomes]
  have ended : ∀ subsets, (c.outcomes source schedule s).1 = subsets.map .ok →
      (c.executeParallel source schedule s).result = c.pageOf subsets := by
    intro subsets brought
    rw [joined, outcomes, brought, join_map_ok]
    rfl
  have failed : ∀ set stop, FailsFirst (c.results source schedule s) set stop →
      ¬ PanicsAbove (c.results source schedule s) set →
        (c.executeParallel source schedule s).result = .error (.failed (reported stop)) := by
    intro set stop first calm
    rw [joined, (first.join sorted).2 calm]
    rfl
  refine ⟨ended, failed, fun panicked => ?_, ?_⟩
  · rcases exists_failsFirst sorted with brought | ⟨set, stop, first⟩
    · obtain ⟨subsets, hsubsets⟩ := exists_map_ok brought
      rw [ended subsets (outcomes.symm.trans hsubsets)] at panicked
      obtain ⟨_, -, ⟨⟩⟩ | ⟨-, panics⟩ := c.pageOf_eq_error panicked
      exact .inr ⟨subsets, outcomes.symm.trans hsubsets, panics⟩
    · refine .inl ⟨set, stop, first, by_contra fun calm => ?_⟩
      rw [failed set stop first calm] at panicked
      cases panicked
  · rintro (⟨set, stop, first, panics⟩ | ⟨subsets, brought, panics⟩)
    · rw [joined, (first.join sorted).1 panics]
      rfl
    · rw [ended subsets brought, c.pageOf_of_sortPanics panics]

def heardPanic : List (Except Stop (List Record)) :=
  [.ok [[("id", .text "p")]], .error .panicked, .error (.failed .cancelled)]

def unheardPanic : List (Except Stop (List Record)) :=
  [.ok [[("id", .text "p")]], .error .panicked, .error .panicked]

/-- The second worker panics, and this is reported; that the third fails as well is of no account. -/
theorem executeParallel_heardPanic :
    keyFilters.compileSegment threefold = .ok ⟨threefoldSets, [], none, some ["id"]⟩ ∧ 2 ≤ threefoldSets.length ∧
      (executeParallel ⟨threefoldSets, [], none, some ["id"]⟩ scripted [] heardPanic).result =
        .error (.failed (.source "condition set worker panicked")) := by
  have several : 2 ≤ threefoldSets.length := by decide
  have listed : results ⟨threefoldSets, [], none, some ["id"]⟩ scripted [] heardPanic =
      [(⟨-4, none, .always⟩, .ok [[("id", .text "p")]]), (⟨6, some .except, .always⟩, .error .panicked),
        (⟨9, some .union, .always⟩, .error (.failed .cancelled))] := rfl
  have first : FailsFirst (results ⟨threefoldSets, [], none, some ["id"]⟩ scripted [] heardPanic)
      ⟨6, some .except, .always⟩ .panicked := by
    rw [listed]
    refine ⟨by simp, ?_⟩
    simp
  have calm : ¬ PanicsAbove (results ⟨threefoldSets, [], none, some ["id"]⟩ scripted [] heardPanic)
      ⟨6, some .except, .always⟩ := by
    rw [listed, PanicsAbove]
    simp
  obtain ⟨-, failed, -⟩ := executeParallel_of_results compileSegment_threefold several scripted [] heardPanic
  exact ⟨compileSegment_threefold, several, failed _ _ first calm⟩

/-- The second worker panics, and nobody waits for the third, whose panic ends the run. -/
theorem executeParallel_unheardPanic :
    keyFilters.compileSegment threefold = .ok ⟨threefoldSets, [], none, some ["id"]⟩ ∧
      (executeParallel ⟨threefoldSets, [], none, some ["id"]⟩ scripted [] unheardPanic).result = .error .panicked :=
  ⟨compileSegment_threefold, rfl⟩

/-- However the workers' steps follow one another and whenever the flag is raised, a run with workers is cancelled or
gives what the sets give one after another with the flag down. It does give that if nobody raises the flag, and it is
cancelled if the flag was up before. -/
theorem executeParallel_interleaved [Sorter] {source : Source σ α} {answer : Predicate → Except FilterError (List α)}
    (h : source.HasAnswers answer) {c : CompiledSegment} (several : 2 ≤ c.sets.length) (schedule : List WorkerStep)
    (s : σ) {t : σ} (low : source.isCancelled t = false) :
    ((c.executeParallel source schedule s).result = (c.execute source t).result ∨
        (c.executeParallel source schedule s).result = .error (.failed .cancelled)) ∧
      (source.isCancelled s = false → WorkerStep.cancel ∉ schedule →
        (c.executeParallel source schedule s).result = (c.execute source t).result) ∧
      (source.isCancelled s = true → (c.executeParallel source schedule s).result = .error (.failed .cancelled)) := by
  rw [h.execute_of_ne_nil (sets_ne_nil several) low]
  refine ⟨?_, fun down calm => ?_, executeParallel_of_isCancelled h several schedule⟩
  · exact (executeParallel_result h several schedule s).imp_right And.right
  · exact executeParallel_of_calm h several calm down

def named : Predicate → Except FilterError (List Record)
  | .always => .ok [[("id", .text "p")], [("id", .text "q")]]
  | _ => .ok [[("id", .text "q")]]

def tallied : Source (Nat × Bool) Record :=
  .ofMatching (fun p s => ((named p).mapError .failed, s.1 + 1, s.2)) Prod.snd fun s => (s.1, true)

def butNameless : CompiledSegment :=
  ⟨[⟨1, none, .always⟩, ⟨2, some .except, .isNull ["name"]⟩], [], none, some ["id"]⟩

/-- The second worker has its records before the flag is raised, and the first finds it raised. -/
theorem executeParallel_butNameless :
    tallied.HasAnswers named ∧ 2 ≤ butNameless.sets.length ∧ tallied.isCancelled (3, false) = false ∧
      tallied.isCancelled (3, true) = true ∧ WorkerStep.cancel ∉ [WorkerStep.advance 1, .advance 1, .advance 0] ∧
      (butNameless.executeParallel tallied [.advance 1, .advance 1, .cancel, .advance 0] (3, false)).result =
        .error (.failed .cancelled) ∧
      (butNameless.executeParallel tallied [.advance 1, .advance 1, .advance 0] (3, false)).result =
        .ok ⟨1, 1, 1, 1, [[("id", .text "p")]]⟩ ∧
      (butNameless.executeParallel tallied [.advance 0] (3, true)).result = .error (.failed .cancelled) := by
  have answers : tallied.HasAnswers named := ⟨fun _ _ => rfl, fun _ _ => rfl, fun _ => rfl⟩
  have several : 2 ≤ butNameless.sets.length := by decide
  have calm : WorkerStep.cancel ∉ [WorkerStep.advance 1, .advance 1, .advance 0] := by decide
  have sequential : (butNameless.execute tallied (3, false)).result = .ok ⟨1, 1, 1, 1, [[("id", .text "p")]]⟩ := by
    cbv
  obtain ⟨-, same, -⟩ := executeParallel_interleaved answers several [.advance 1, .advance 1, .advance 0] (3, false)
    (t := (3, false)) rfl
  obtain ⟨-, -, cancelled⟩ := executeParallel_interleaved answers several [.advance 0] (3, true) (t := (3, false)) rfl
  exact ⟨answers, several, rfl, rfl, calm, rfl, (same rfl calm).trans sequential, cancelled rfl⟩

end RecordFilter.CompiledSegment
