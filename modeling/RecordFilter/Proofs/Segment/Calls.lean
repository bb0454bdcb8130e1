import Mathlib
import RecordFilter.Proofs.Segment.Compiled
import RecordFilter.Proofs.Segment.Conclusion

set_option autoImplicit false

/-!
# The calls of a run

A run that takes one set after another calls its source once for each of the first so many sets. It makes no further
call once the flag is up or a call has failed, and whether it is cancelled, fails or gives a page depends on the calls
that it has made and on the flag before the one that would come next.
-/

namespace RecordFilter

structure Call (σ α : Type) where
  set : CompiledSet
  before : σ
  answer : Except Stop (List α)

def Run.withAsked {σ α : Type} (r : Run σ α) (asked : List Predicate) : Run (σ × List Predicate) α :=
  ⟨r.result, r.events, r.matched, (r.state, asked)⟩

namespace Source

variable {σ α : Type}

/-- The calls for sets one after another, if nothing keeps any of them from being made. -/
def calls (source : Source σ α) : List CompiledSet → σ → List (Call σ α)
  | [], _ => []
  | set :: sets, s =>
    ⟨set, s, (source.matching set.predicate s).1⟩ :: source.calls sets (source.matching set.predicate s).2

def recorded (source : Source σ α) : Source (σ × List Predicate) α where
  matching p s := ((source.matching p s.1).1, (source.matching p s.1).2, s.2 ++ [p])
  count p s := ((source.count p s.1).1, (source.count p s.1).2, s.2)
  window p orders skip take s :=
    ((source.window p orders skip take s.1).1, (source.window p orders skip take s.1).2, s.2)
  isCancelled s := source.isCancelled s.1
  cancel s := (source.cancel s.1, s.2)

theorem matching_recorded (source : Source σ α) (p : Predicate) (s : σ) (asked : List Predicate) :
    source.recorded.matching p (s, asked) = ((source.matching p s).1, (source.matching p s).2, asked ++ [p]) :=
  rfl

theorem isCancelled_recorded (source : Source σ α) (s : σ) (asked : List Predicate) :
    source.recorded.isCancelled (s, asked) = source.isCancelled s :=
  rfl

theorem map_set_calls (source : Source σ α) (sets : List CompiledSet) (s : σ) :
    (source.calls sets s).map Call.set = sets := by
  induction sets generalizing s with
  | nil => rfl
  | cons set sets ih =>
    rw [calls, List.map_cons, ih]

theorem answer_of_mem_calls (source : Source σ α) {sets : List CompiledSet} {s : σ} {call : Call σ α}
    (h : call ∈ source.calls sets s) : call.answer = (source.matching call.set.predicate call.before).1 := by
  induction sets generalizing s with
  | nil => cases h
  | cons set sets ih =>
    rcases List.mem_cons.1 h with rfl | h
    · rfl
    · exact ih h

/-- How a run goes through calls that lie before it: those that it makes, and what it collects. -/
inductive Course (source : Source σ α) : List (Call σ α) → List (Call σ α) → Except Stop (List (List α)) → Prop where
  | done : Course source [] [] (.ok [])
  | cancelled {call : Call σ α} {calls : List (Call σ α)} (raised : source.isCancelled call.before = true) :
      Course source (call :: calls) [] (.error (.failed .cancelled))
  | failed {call : Call σ α} {calls : List (Call σ α)} {stop : Stop} (low : source.isCancelled call.before = false)
      (failed : call.answer = .error stop) : Course source (call :: calls) [call] (.error stop)
  | answered {call : Call σ α} {calls made : List (Call σ α)} {as : List α}
      {collected : Except Stop (List (List α))} (low : source.isCancelled call.before = false)
      (brought : call.answer = .ok as) (rest : Course source calls made collected) :
      Course source (call :: calls) (call :: made) (collected.map (as :: ·))

/-- Asking for sets takes a course through their calls, and a source that writes down what it is asked answers alike. -/
theorem exists_course (source : Source σ α) (sets : List CompiledSet) (s : σ) (asked : List Predicate) :
    ∃ made, Course source (source.calls sets s) made (CompiledSegment.collect source sets s).1 ∧
      CompiledSegment.collect source.recorded sets (s, asked) =
        ((CompiledSegment.collect source sets s).1, (CompiledSegment.collect source sets s).2,
          asked ++ made.map fun call => call.set.predicate) := by
  induction sets generalizing s asked with
  | nil =>
    refine ⟨[], .done, ?_⟩
    rw [List.map_nil, List.append_nil]
    rfl
  | cons set sets ih =>
    have flag := source.isCancelled_recorded s asked
    rw [calls]
    cases low : source.isCancelled s with
    | true =>
      rw [CompiledSegment.collect_of_isCancelled sets low, CompiledSegment.collect_of_isCancelled sets (flag.trans low)]
      refine ⟨[], .cancelled low, ?_⟩
      rw [List.map_nil, List.append_nil]
    | false =>
      cases called : source.matching set.predicate s with
      | mk result t =>
        have written : source.recorded.matching set.predicate (s, asked) = (result, t, asked ++ [set.predicate]) := by
          rw [matching_recorded, called]
        cases result with
        | error stop =>
          rw [CompiledSegment.collect_of_error sets low called,
            CompiledSegment.collect_of_error sets (flag.trans low) written]
          exact ⟨[⟨set, s, .error stop⟩], .failed low rfl, rfl⟩
        | ok as =>
          obtain ⟨made, course, same⟩ := ih t (asked ++ [set.predicate])
          rw [CompiledSegment.collect_of_ok sets low called,
            CompiledSegment.collect_of_ok sets (flag.trans low) written, same, List.append_assoc]
          exact ⟨⟨set, s, .ok as⟩ :: made, .answered low rfl course, rfl⟩

namespace Course

variable {source : Source σ α} {calls made : List (Call σ α)} {collected : Except Stop (List (List α))}

theorem begins (h : Course source calls made collected) : made <+: calls := by
  induction h with
  | done => exact List.prefix_refl []
  | cancelled => exact List.nil_prefix
  | failed => exact List.prefix_append [_] _
  | answered _ _ _ ih => exact (List.prefix_cons_inj _).2 ih

theorem onward (h : Course source calls made collected) {earlier later : List (Call σ α)} {call : Call σ α}
    (split : made = earlier ++ call :: later) :
    source.isCancelled call.before = false ∧ ∀ x ∈ earlier, ∃ as, x.answer = .ok as := by
  induction h generalizing earlier with
  | done => exact absurd split.symm (List.append_ne_nil_of_right_ne_nil _ (List.cons_ne_nil _ _))
  | cancelled => exact absurd split.symm (List.append_ne_nil_of_right_ne_nil _ (List.cons_ne_nil _ _))
  | failed low =>
    cases earlier with
    | nil =>
      obtain ⟨rfl, -⟩ := List.cons.inj split
      exact ⟨low, fun x none => absurd none List.not_mem_nil⟩
    | cons x earlier =>
      have rest := (List.cons.inj split).2
      exact absurd rest.symm (List.append_ne_nil_of_right_ne_nil _ (List.cons_ne_nil _ _))
  | answered low brought _ ih =>
    cases earlier with
    | nil =>
      obtain ⟨rfl, -⟩ := List.cons.inj split
      exact ⟨low, fun x none => absurd none List.not_mem_nil⟩
    | cons x earlier =>
      obtain ⟨rfl, rest⟩ := List.cons.inj split
      obtain ⟨down, earlier_ok⟩ := ih rest
      exact ⟨down, List.forall_mem_cons.2 ⟨⟨_, brought⟩, earlier_ok⟩⟩

/-- A course ends before a call that finds the flag up, at one that fails, or behind the last. -/
theorem ends (h : Course source calls made collected) :
    ((∀ x ∈ made, ∃ as, x.answer = .ok as) ∧
        (∃ call later, calls = made ++ call :: later ∧ source.isCancelled call.before = true) ∧
        collected = .error (.failed .cancelled)) ∨
      (∃ earlier call stop, made = earlier ++ [call] ∧ (∀ x ∈ earlier, ∃ as, x.answer = .ok as) ∧
        call.answer = .error stop ∧ collected = .error stop) ∨
      made = calls ∧ ∃ subsets, calls.map Call.answer = subsets.map .ok ∧ collected = .ok subsets := by
  induction h with
  | done => exact Or.inr (Or.inr ⟨rfl, [], rfl, rfl⟩)
  | @cancelled call calls raised =>
    exact Or.inl ⟨fun x none => absurd none List.not_mem_nil, ⟨call, calls, rfl, raised⟩, rfl⟩
  | @failed call _ stop _ failed =>
    exact Or.inr (Or.inl ⟨[], call, stop, rfl, fun x none => absurd none List.not_mem_nil, failed, rfl⟩)
  | @answered first _ _ as _ _ brought _ ih =>
    rcases ih with ⟨ok, ⟨call, later, rfl, raised⟩, rfl⟩ | ⟨earlier, call, stop, rfl, ok, failed, rfl⟩ |
      ⟨rfl, subsets, answers, rfl⟩
    · exact Or.inl ⟨List.forall_mem_cons.2 ⟨⟨as, brought⟩, ok⟩, ⟨call, later, rfl, raised⟩, rfl⟩
    · exact Or.inr (Or.inl ⟨first :: earlier, call, stop, rfl, List.forall_mem_cons.2 ⟨⟨as, brought⟩, ok⟩, failed, rfl⟩)
    · refine Or.inr (Or.inr ⟨rfl, as :: subsets, ?_, rfl⟩)
      rw [List.map_cons, List.map_cons, brought, answers]

theorem collected_eq_error (h : Course source calls made collected) {call : Call σ α} (member : call ∈ made)
    {stop : Stop} (failed : call.answer = .error stop) : collected = .error stop := by
  induction h with
  | done | cancelled => cases member
  | failed _ own =>
    obtain rfl := List.mem_singleton.1 member
    rw [own] at failed
    cases failed
    rfl
  | answered _ brought _ ih =>
    rcases List.mem_cons.1 member with rfl | later
    · cases failed.symm.trans brought
    · rw [ih later]
      rfl

theorem collected_eq_cancelled_iff (h : Course source calls made collected)
    (honest : ∀ call ∈ calls, call.answer ≠ .error (.failed .cancelled)) :
    collected = .error (.failed .cancelled) ↔
      (∀ call ∈ made, ∃ as, call.answer = .ok as) ∧
        ∃ next later, calls = made ++ next :: later ∧ source.isCancelled next.before = true := by
  rcases h.ends with ⟨ok, next, rfl⟩ | ⟨earlier, call, stop, rfl, ok, failed, rfl⟩ | ⟨rfl, subsets, answers, rfl⟩
  · exact ⟨fun _ => ⟨ok, next⟩, fun _ => rfl⟩
  · have member : call ∈ earlier ++ [call] := List.mem_append_right _ List.mem_cons_self
    constructor
    · intro cancelled
      obtain rfl : stop = .failed .cancelled := Except.error.inj cancelled
      exact absurd failed (honest call (h.begins.subset member))
    · rintro ⟨ok, -⟩
      obtain ⟨as, brought⟩ := ok call member
      cases failed.symm.trans brought
  · constructor
    · intro cancelled
      cases cancelled
    · rintro ⟨-, next, later, split, -⟩
      have length := congrArg List.length split
      rw [List.length_append, List.length_cons] at length
      omega

end Course

end Source

namespace CompiledSegment

section Turns

variable {σ α : Type} [HasFields α] [Sorter]

theorem settle_withAsked (c : CompiledSegment) (matched : List (List α) → List (Int64 × Nat))
    (result : Except Stop (List (List α))) (t : σ) (asked : List Predicate) :
    c.settle matched (result, t, asked) = (c.settle matched (result, t)).withAsked asked := by
  cases result with
  | error stop => rfl
  | ok subsets =>
    rw [settle, settle, c.conclude_eq, c.conclude_eq]
    rfl

/-- The run of a segment that has made these calls and come to this result, one set after another. -/
structure RunsInTurn (c : CompiledSegment) (source : Source σ α) (s : σ) (made : List (Call σ α))
    (result : Except Stop (Page α)) : Prop where
  begins : made <+: source.calls c.sets s
  ascending : (made.map fun call => call.set.sort).Pairwise (· < ·)
  onward : ∀ earlier call later, made = earlier ++ call :: later →
    source.isCancelled call.before = false ∧ ∀ x ∈ earlier, ∃ as, x.answer = .ok as
  cancelled_iff : (∀ p t, (source.matching p t).1 ≠ .error (.failed .cancelled)) →
    (result = .error (.failed .cancelled) ↔
      (∀ call ∈ made, ∃ as, call.answer = .ok as) ∧
        ∃ next later, source.calls c.sets s = made ++ next :: later ∧ source.isCancelled next.before = true)
  failed : ∀ call ∈ made, ∀ stop, call.answer = .error stop → result = .error stop
  answered : (∀ call ∈ made, ∃ as, call.answer = .ok as) →
    (∀ next later, source.calls c.sets s = made ++ next :: later → source.isCancelled next.before = false) →
      made = source.calls c.sets s ∧ ∃ subsets, made.map Call.answer = subsets.map .ok ∧ result = c.pageOf subsets

theorem runsInTurn_of_course {k : Compiler} {segment : Segment} {c : CompiledSegment}
    (h : k.compileSegment segment = .ok c) {source : Source σ α} {s : σ} {made : List (Call σ α)}
    {collected : Except Stop (List (List α))} (course : source.Course (source.calls c.sets s) made collected) :
    RunsInTurn c source s made (collected >>= c.pageOf) where
  begins := course.begins
  ascending := by
    have sets := (k.compileSegment_eq_ok_iff.1 h).pairwise_sort_lt
    rw [← source.map_set_calls c.sets s, List.pairwise_map] at sets
    exact List.pairwise_map.2 (sets.sublist course.begins.sublist)
  onward _ _ _ split := course.onward split
  cancelled_iff honest := by
    have answers : ∀ call ∈ source.calls c.sets s, call.answer ≠ .error (.failed .cancelled) := by
      intro call member
      rw [source.answer_of_mem_calls member]
      exact honest _ _
    rw [← course.collected_eq_cancelled_iff answers]
    constructor
    · intro cancelled
      cases collected with
      | error stop => rw [Except.error.inj cancelled]
      | ok subsets => obtain ⟨e, ⟨_, rfl⟩ | ⟨_, rfl⟩, ⟨⟩⟩ | ⟨⟨⟩, -⟩ := c.pageOf_eq_error cancelled
    · rintro rfl
      rfl
  failed call member stop failed := by
    rw [course.collected_eq_error member failed]
    rfl
  answered ok low := by
    rcases course.ends with ⟨-, ⟨next, later, split, raised⟩, -⟩ | ⟨earlier, call, stop, rfl, -, failed, -⟩ |
      ⟨rfl, subsets, answers, rfl⟩
    · rw [low next later split] at raised
      cases raised
    · obtain ⟨as, brought⟩ := ok call (List.mem_append_right _ List.mem_cons_self)
      cases failed.symm.trans brought
    · exact ⟨rfl, subsets, answers, rfl⟩

/-- A run that takes one set after another, over a source that is waited for or not, makes the same calls and comes
to the same result: both are as the calls require. -/
theorem runs_in_turn {k : Compiler} {segment : Segment} {c : CompiledSegment} (h : k.compileSegment segment = .ok c)
    (nonempty : c.sets ≠ []) (source : Source σ α) (s : σ) :
    ∃ made,
      c.execute source.recorded (s, []) =
        (c.execute source s).withAsked (made.map fun call => call.set.predicate) ∧
      RunsInTurn c source s made (c.execute source s).result ∧
      c.executeAsync source.recorded (s, []) =
        (c.executeAsync source s).withAsked (made.map fun call => call.set.predicate) ∧
      RunsInTurn c source s made (c.executeAsync source s).result := by
  obtain ⟨made, course, same⟩ := source.exists_course c.sets s []
  rw [List.nil_append] at same
  rw [execute_eq_settle nonempty, execute_eq_settle nonempty, executeAsync_eq_settle nonempty,
    executeAsync_eq_settle nonempty, same, settle_withAsked, settle_withAsked, settle_result, settle_result]
  exact ⟨made, rfl, runsInTurn_of_course h course, rfl, runsInTurn_of_course h course⟩

end Turns

def keyFilters : Compiler := ⟨⟨"rows", [("id", .scalar .text)], some "id"⟩, .standard⟩

def threefold : Segment := ⟨[⟨9, some .union, .empty⟩, ⟨-4, none, .empty⟩, ⟨6, some .except, .empty⟩], none, none⟩

def threefoldSets : List CompiledSet :=
  [⟨-4, none, .always⟩, ⟨6, some .except, .always⟩, ⟨9, some .union, .always⟩]

theorem compileSegment_threefold :
    keyFilters.compileSegment threefold = .ok ⟨threefoldSets, [], none, some ["id"]⟩ := by
  cbv

def raisesSecond : Source (Nat × Bool) Record :=
  .ofMatching (fun _ s => (.ok [[("id", .text "p")]], s.1 + 1, s.2 || s.1 == 1)) Prod.snd fun s => (s.1, true)

/-- The third call is not made, and the run is cancelled. -/
theorem runs_in_turn_raisesSecond :
    keyFilters.compileSegment threefold = .ok ⟨threefoldSets, [], none, some ["id"]⟩ ∧ threefoldSets ≠ [] ∧
      (∀ p t, (raisesSecond.matching p t).1 ≠ .error (.failed .cancelled)) ∧
      (execute ⟨threefoldSets, [], none, some ["id"]⟩ raisesSecond.recorded ((0, false), [])).state =
        ((2, true), [.always, .always]) ∧
      (execute ⟨threefoldSets, [], none, some ["id"]⟩ raisesSecond (0, false)).result =
        .error (.failed .cancelled) := by
  have nonempty : threefoldSets ≠ [] := List.cons_ne_nil _ _
  have honest : ∀ p t, (raisesSecond.matching p t).1 ≠ .error (.failed .cancelled) := by
    rintro p t ⟨⟩
  obtain ⟨made, written, turn, -⟩ := runs_in_turn compileSegment_threefold nonempty raisesSecond (0, false)
  have asked : (made.map fun call => call.set.predicate) = [.always, .always] :=
    (congrArg (fun r => r.state.2) written).symm
  have two : made.length = 2 := by
    rw [← List.length_map (f := fun call : Call (Nat × Bool) Record => call.set.predicate), asked]
    rfl
  have made_eq := List.prefix_iff_eq_take.1 turn.begins
  rw [two] at made_eq
  subst made_eq
  refine ⟨compileSegment_threefold, nonempty, honest, rfl, (turn.cancelled_iff honest).2 ⟨?_, ?_⟩⟩
  · exact List.forall_mem_cons.2 ⟨⟨_, rfl⟩, List.forall_mem_singleton.2 ⟨_, rfl⟩⟩
  · exact ⟨_, [], rfl, rfl⟩

end CompiledSegment

end RecordFilter
