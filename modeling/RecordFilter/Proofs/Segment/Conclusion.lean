import RecordFilter.Proofs.Segment.SetAlgebra
import RecordFilter.Segment.Workers

set_option autoImplicit false

namespace RecordFilter.CompiledSegment

variable {σ α : Type}

section Collect

variable {source : Source σ α} {set : CompiledSet} {s t : σ} (sets : List CompiledSet)

theorem collect_of_isCancelled (raised : source.isCancelled s = true) :
    collect source (set :: sets) s = (.error (.failed .cancelled), s) := by
  rw [collect, Source.ask, if_pos raised]

theorem collect_of_error {stop : Stop} (low : source.isCancelled s = false)
    (failed : source.matching set.predicate s = (.error stop, t)) :
    collect source (set :: sets) s = (.error stop, t) := by
  rw [collect, Source.ask, if_neg (by rw [low]; exact Bool.false_ne_true), failed]

theorem collect_of_ok {as : List α} (low : source.isCancelled s = false)
    (brought : source.matching set.predicate s = (.ok as, t)) :
    collect source (set :: sets) s =
      ((collect source sets t).1.map (as :: ·), (collect source sets t).2) := by
  rw [collect, Source.ask, if_neg (by rw [low]; exact Bool.false_ne_true), brought]
  dsimp only
  obtain ⟨result, u⟩ := collect source sets t
  cases result <;> rfl

end Collect

variable [HasFields α] [Sorter] (c : CompiledSegment)

theorem finish_of_page_eq_none {c : CompiledSegment} (h : c.page = none) (records : List α) :
    c.finish records = (orderRecords c.orders records).map (Page.of none records.length) := by
  rw [finish, bounds, h]
  cases hsorted : orderRecords c.orders records with
  | error stop => rfl
  | ok sorted =>
    have everything : sorted.take records.length = sorted :=
      List.take_of_length_le (Nat.le_of_eq (orderRecords_perm hsorted).length_eq)
    exact congrArg (fun data => Except.ok (Page.of none records.length data)) everything

theorem finish_eq_error_iff {records : List α} {stop : Stop} :
    c.finish records = .error stop ↔ stop = .panicked ∧ orderRecords c.orders records = .error .panicked := by
  rw [finish, Outcome.map_eq_error_iff]
  constructor
  · intro panics
    obtain rfl := orderRecords_eq_error panics
    exact ⟨rfl, panics⟩
  · rintro ⟨rfl, panics⟩
    exact panics

def pageOf (subsets : List (List α)) : Except Stop (Page α) :=
  (Fold.run c.key (c.sets.zip subsets)).2.mapError .failed >>= c.finish

/-- The records cannot be sorted that come of the matches of all sets. -/
def SortPanics (subsets : List (List α)) : Prop :=
  ∃ records, (Fold.run c.key (c.sets.zip subsets)).2 = .ok records ∧ orderRecords c.orders records = .error .panicked

theorem pageOf_eq_error {subsets : List (List α)} {stop : Stop} (h : c.pageOf subsets = .error stop) :
    (∃ e, Fold.IsFault e ∧ stop = .failed e) ∨ stop = .panicked ∧ c.SortPanics subsets := by
  rw [pageOf] at h
  cases hrun : (Fold.run c.key (c.sets.zip subsets)).2 with
  | error e =>
    rw [hrun] at h
    exact .inl ⟨e, Fold.isFault_of_run hrun, (Except.error.inj h).symm⟩
  | ok records =>
    rw [hrun] at h
    obtain ⟨stopped, panics⟩ := c.finish_eq_error_iff.1 h
    exact .inr ⟨stopped, records, hrun, panics⟩

theorem pageOf_of_sortPanics {subsets : List (List α)} (h : c.SortPanics subsets) :
    c.pageOf subsets = .error .panicked := by
  obtain ⟨records, hrun, panics⟩ := h
  rw [pageOf, hrun]
  exact c.finish_eq_error_iff.2 ⟨rfl, panics⟩

def lastEvents : Except Stop (Page α) → List RunEvent
  | .ok page => [c.finished page]
  | .error _ => []

theorem conclude_eq (subsets : List (List α)) (matched : List (Int64 × Nat)) (s : σ) :
    c.conclude subsets matched s =
      ⟨c.pageOf subsets, (Fold.run c.key (c.sets.zip subsets)).1 ++ c.lastEvents (c.pageOf subsets), matched, s⟩ := by
  rw [conclude, pageOf]
  obtain ⟨events, result⟩ := Fold.run c.key (c.sets.zip subsets)
  have nothing : events = events ++ [] := (List.append_nil events).symm
  cases result with
  | error e => exact congrArg (fun told => Run.mk _ told matched s) nothing
  | ok records =>
    change _ = Run.mk (c.finish records) (events ++ c.lastEvents (c.finish records)) matched s
    dsimp only
    cases c.finish records with
    | error stop => exact congrArg (fun told => Run.mk _ told matched s) nothing
    | ok page => rfl

theorem conclude_result (subsets : List (List α)) (matched : List (Int64 × Nat)) (s : σ) :
    (c.conclude subsets matched s).result = c.pageOf subsets := by
  rw [c.conclude_eq]

def settle (matched : List (List α) → List (Int64 × Nat)) : Except Stop (List (List α)) × σ → Run σ α
  | (.error stop, s) => stopped stop s
  | (.ok subsets, s) => c.conclude subsets (matched subsets) s

theorem settle_result (matched : List (List α) → List (Int64 × Nat)) (collected : Except Stop (List (List α)) × σ) :
    (c.settle matched collected).result = collected.1 >>= c.pageOf := by
  obtain ⟨result, s⟩ := collected
  cases result with
  | error stop => rfl
  | ok subsets => exact c.conclude_result subsets _ s

variable {c}

theorem execute_eq_settle (nonempty : c.sets ≠ []) (source : Source σ α) (s : σ) :
    c.execute source s =
      c.settle (List.zipWith (fun set (as : List α) => (set.sort, as.length)) c.sets) (collect source c.sets s) := by
  rw [execute, if_neg (by simpa using nonempty)]
  obtain ⟨result, t⟩ := collect source c.sets s
  cases result <;> rfl

theorem executeAsync_eq_settle (nonempty : c.sets ≠ []) (source : Source σ α) (s : σ) :
    c.executeAsync source s = c.settle (fun _ => []) (collect source c.sets s) := by
  rw [executeAsync, if_neg (by simpa using nonempty)]
  obtain ⟨result, t⟩ := collect source c.sets s
  cases result <;> rfl

variable (c)

/-- What has come of the workers, in the order of their sets, and the state in which they leave the source. -/
def outcomes (source : Source σ α) (schedule : List WorkerStep) (s : σ) : List (Except Stop (List α)) × σ :=
  let (workers, s) := Worker.follow source schedule (c.sets.map fun set => (set, .waiting)) s
  Worker.completeAll source workers s

variable {c}

theorem executeParallel_eq_settle (several : 2 ≤ c.sets.length) (source : Source σ α) (schedule : List WorkerStep)
    (s : σ) :
    c.executeParallel source schedule s =
      c.settle (fun _ => []) (join (c.outcomes source schedule s).1, (c.outcomes source schedule s).2) := by
  rw [executeParallel, if_neg (by omega)]
  change c.concludeWorkers (c.outcomes source schedule s).1 (c.outcomes source schedule s).2 = _
  rw [concludeWorkers]
  cases join (c.outcomes source schedule s).1 <;> rfl

end RecordFilter.CompiledSegment
