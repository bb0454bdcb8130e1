import RecordFilter.Proofs.Outcome
import RecordFilter.Proofs.Segment.Conclusion

set_option autoImplicit false

namespace RecordFilter

/-- A source with fixed answers: the records of a list, or a store that knows no more than its matches. -/
inductive FixedSource (α : Type) where
  | memory (records : List α)
  | store (answer : Predicate → Except FilterError (List α))

namespace FixedSource

variable {α : Type} [HasFields α]

def answer : FixedSource α → Predicate → Except FilterError (List α)
  | memory records, p => .ok (records.filter fun a => p.accepts a)
  | store answer, p => answer p

/-- The state of the source is the flag, which its calls leave alone. -/
def source [Sorter] : FixedSource α → Source Bool α
  | memory records => .memory records
  | store answer => .ofMatching (fun p s => ((answer p).mapError .failed, s)) id fun _ => true

variable (f : FixedSource α)

def combined (c : CompiledSegment) : Except FilterError (List α) :=
  if c.sets.isEmpty then f.answer .always
  else do
    let subsets ← c.sets.mapM fun set => f.answer set.predicate
    (Fold.run c.key (c.sets.zip subsets)).2

def outcome [Sorter] (c : CompiledSegment) : Except Stop (Page α) :=
  (f.combined c).mapError .failed >>= c.finish

theorem combined_of_ne_nil {c : CompiledSegment} (h : c.sets ≠ []) :
    f.combined c = (c.sets.mapM fun set => f.answer set.predicate) >>= fun subsets =>
      (Fold.run c.key (c.sets.zip subsets)).2 := by
  rw [combined, if_neg (by simpa using h)]

theorem combined_memory (rows : List α) {c : CompiledSegment} (h : c.sets ≠ []) :
    (memory rows).combined c =
      (Fold.run c.key (c.sets.map fun set => (set, rows.filter fun a => set.predicate.accepts a))).2 := by
  have answers : (c.sets.mapM fun set => (memory rows).answer set.predicate) =
      .ok (c.sets.map fun set => rows.filter fun a => set.predicate.accepts a) := by
    rw [Outcome.mapM_eq_ok_iff, List.forall₂_map_right_iff]
    exact List.forall₂_same.2 fun _ _ => rfl
  rw [combined_of_ne_nil _ h, answers, List.map_prod_left_eq_zip]
  rfl

theorem combined_memory_subset {rows records : List α} {c : CompiledSegment}
    (h : (memory rows).combined c = .ok records) : records ⊆ rows := by
  by_cases bare : c.sets = []
  · rw [combined, bare] at h
    cases h
    exact List.filter_subset_self _
  · rw [combined_memory rows bare] at h
    exact Fold.run_subset (List.forall_mem_map.2 fun set _ => List.filter_subset_self _) h

variable {f} in
theorem outcome_eq_failed_iff [Sorter] {c : CompiledSegment} {e : FilterError} :
    f.outcome c = .error (.failed e) ↔ f.combined c = .error e := by
  rw [outcome]
  cases f.combined c with
  | error e' =>
    constructor <;> rintro ⟨⟩ <;> rfl
  | ok records =>
    constructor
    · intro stopped
      obtain ⟨⟨⟩, -⟩ := c.finish_eq_error_iff.1 stopped
    · rintro ⟨⟩

variable {f} in
theorem outcome_eq_panicked_iff [Sorter] {c : CompiledSegment} :
    f.outcome c = .error .panicked ↔
      ∃ records, f.combined c = .ok records ∧ orderRecords c.orders records = .error .panicked := by
  rw [outcome]
  cases f.combined c with
  | error e =>
    constructor
    · rintro ⟨⟩
    · rintro ⟨_, ⟨⟩, -⟩
  | ok records =>
    constructor
    · intro stopped
      exact ⟨records, rfl, (c.finish_eq_error_iff.1 stopped).2⟩
    · rintro ⟨_, ⟨⟩, unsorted⟩
      exact c.finish_eq_error_iff.2 ⟨rfl, unsorted⟩

theorem outcome_of_ne_nil [Sorter] {c : CompiledSegment} (h : c.sets ≠ []) :
    f.outcome c = (c.sets.mapM fun set => f.answer set.predicate).mapError .failed >>= c.pageOf := by
  rw [outcome, combined_of_ne_nil f h]
  cases c.sets.mapM fun set => f.answer set.predicate <;> rfl

end FixedSource

namespace Source

variable {σ α : Type}

/-- The source answers a predicate in the same way in every state, and its calls leave the flag alone. -/
structure HasAnswers (source : Source σ α) (answer : Predicate → Except FilterError (List α)) : Prop where
  matching : ∀ p s, (source.matching p s).1 = (answer p).mapError .failed
  isCancelled_matching : ∀ p s, source.isCancelled (source.matching p s).2 = source.isCancelled s
  isCancelled_cancel : ∀ s, source.isCancelled (source.cancel s) = true

/-- Besides, it counts, sorts and cuts its matches like one that lists them all first. -/
structure IsLawful [HasFields α] [Sorter] (source : Source σ α) (answer : Predicate → Except FilterError (List α)) : Prop
    extends HasAnswers source answer where
  count : ∀ p s, (source.count p s).1 = ((answer p).map List.length).mapError .failed
  window : ∀ p orders skip take s, (source.window p orders skip take s).1 =
    (answer p).mapError .failed >>= fun as => (orderRecords orders as).map fun sorted => (sorted.drop skip).take take

variable {source : Source σ α} {answer : Predicate → Except FilterError (List α)}

namespace HasAnswers

theorem ask (h : source.HasAnswers answer) (p : Predicate) {s : σ} (low : source.isCancelled s = false) :
    (source.ask p s).1 = (answer p).mapError .failed := by
  rw [Source.ask, low]
  exact h.matching p s

theorem isCancelled_ask (h : source.HasAnswers answer) (p : Predicate) (s : σ) :
    source.isCancelled (source.ask p s).2 = source.isCancelled s := by
  rw [Source.ask]
  by_cases raised : source.isCancelled s = true
  · rw [if_pos raised]
  · rw [if_neg raised]
    exact h.isCancelled_matching p s

theorem collect (h : source.HasAnswers answer) (sets : List CompiledSet) {s : σ}
    (low : source.isCancelled s = false) :
    (CompiledSegment.collect source sets s).1 =
      (sets.mapM fun set => answer set.predicate).mapError .failed := by
  induction sets generalizing s with
  | nil => rfl
  | cons set sets ih =>
    have same := h.matching set.predicate s
    have still := h.isCancelled_matching set.predicate s
    rw [Outcome.mapM_cons]
    cases called : source.matching set.predicate s with
    | mk result t =>
      rw [called] at same still
      cases hanswer : answer set.predicate with
      | error e =>
        rw [hanswer] at same
        obtain rfl : result = .error (.failed e) := same
        rw [CompiledSegment.collect_of_error sets low called]
        rfl
      | ok as =>
        rw [hanswer] at same
        obtain rfl : result = .ok as := same
        rw [CompiledSegment.collect_of_ok sets low called, ih (still.trans low)]
        cases sets.mapM fun set => answer set.predicate <;> rfl

variable [HasFields α] [Sorter]

theorem execute_of_ne_nil (h : source.HasAnswers answer) {c : CompiledSegment} (nonempty : c.sets ≠ []) {s : σ}
    (low : source.isCancelled s = false) :
    (c.execute source s).result = (FixedSource.store answer).outcome c := by
  rw [CompiledSegment.execute_eq_settle nonempty, c.settle_result, h.collect c.sets low,
    FixedSource.outcome_of_ne_nil _ nonempty]
  rfl

theorem executeAsync_result (h : source.HasAnswers answer) (c : CompiledSegment) {s : σ}
    (low : source.isCancelled s = false) :
    (c.executeAsync source s).result = (FixedSource.store answer).outcome c := by
  by_cases bare : c.sets = []
  · have asked := h.ask .always low
    rw [CompiledSegment.executeAsync, if_pos (by simpa using bare), FixedSource.outcome, FixedSource.combined,
      if_pos (by simpa using bare)]
    generalize source.ask .always s = called at asked
    obtain ⟨result, t⟩ := called
    cases asked
    simp only [FixedSource.answer]
    cases answer .always with
    | error e => rfl
    | ok records =>
      change _ = c.finish records
      dsimp only [Except.mapError]
      cases c.finish records <;> rfl
  · rw [CompiledSegment.executeAsync_eq_settle bare, c.settle_result, h.collect c.sets low,
      FixedSource.outcome_of_ne_nil _ bare]
    rfl

end HasAnswers

variable [HasFields α] [Sorter]

theorem IsLawful.executeAll_result (h : source.IsLawful answer) (c : CompiledSegment) {s : σ}
    (low : source.isCancelled s = false) :
    (c.executeAll source s).result = (answer .always).mapError .failed >>= c.finish := by
  have counted := h.count .always s
  rw [CompiledSegment.executeAll, if_neg (by rw [low]; exact Bool.false_ne_true)]
  generalize source.count .always s = called at counted
  obtain ⟨result, t⟩ := called
  cases counted
  cases hanswer : answer .always with
  | error e => rfl
  | ok records =>
    have cut := h.window .always c.orders (c.bounds records.length).1 (c.bounds records.length).2 t
    rw [hanswer] at cut
    simp only [Except.map, Except.mapError]
    generalize source.window .always c.orders _ _ t = called at cut
    obtain ⟨result, u⟩ := called
    cases cut
    change _ = c.finish records
    rw [CompiledSegment.finish]
    cases orderRecords c.orders records <;> rfl

theorem IsLawful.execute_result (h : source.IsLawful answer) (c : CompiledSegment) {s : σ}
    (low : source.isCancelled s = false) :
    (c.execute source s).result = (FixedSource.store answer).outcome c := by
  by_cases bare : c.sets = []
  · rw [CompiledSegment.execute, if_pos (by simpa using bare), h.executeAll_result c low, FixedSource.outcome,
      FixedSource.combined, if_pos (by simpa using bare)]
    rfl
  · exact h.execute_of_ne_nil bare low

end Source

namespace FixedSource

variable {α : Type} [HasFields α] [Sorter] (f : FixedSource α)

theorem count_source (p : Predicate) (s : Bool) :
    (f.source.count p s).1 = ((f.answer p).map List.length).mapError .failed := by
  cases f with
  | memory records =>
    have counted : (if p.isAlways then records.length else records.countP fun a => p.accepts a) =
        (records.filter fun a => p.accepts a).length := by
      cases p with
      | always =>
        have everything : (records.filter fun a => Predicate.always.accepts a) = records := by
          rw [List.filter_eq_self]
          intro a _
          rfl
        rw [everything]
        rfl
      | _ => exact List.countP_eq_length_filter
    exact congrArg Except.ok counted
  | store answer =>
    change ((answer p).mapError _).map List.length = ((answer p).map List.length).mapError _
    cases answer p <;> rfl

theorem window_source (p : Predicate) (orders : List OrderKey) (skip take : Nat) (s : Bool) :
    (f.source.window p orders skip take s).1 =
      (f.answer p).mapError .failed >>= fun as =>
        (orderRecords orders as).map fun sorted => (sorted.drop skip).take take := by
  cases f <;> rfl

theorem isLawful_source : f.source.IsLawful f.answer where
  matching _ _ := by cases f <;> rfl
  isCancelled_matching _ _ := by cases f <;> rfl
  isCancelled_cancel _ := by cases f <;> rfl
  count := f.count_source
  window := f.window_source

theorem isCancelled_source (s : Bool) : f.source.isCancelled s = s := by
  cases f <;> rfl

theorem execute_result (c : CompiledSegment) : (c.execute f.source false).result = f.outcome c :=
  f.isLawful_source.execute_result c (f.isCancelled_source false)

theorem executeAsync_result (c : CompiledSegment) : (c.executeAsync f.source false).result = f.outcome c :=
  f.isLawful_source.executeAsync_result c (f.isCancelled_source false)

end FixedSource

end RecordFilter
