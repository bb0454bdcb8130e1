import Mathlib
import RecordFilter.Capture
import RecordFilter.Proofs.Bench
import RecordFilter.Proofs.Segment.Compiled
import RecordFilter.Proofs.Segment.Joining
import RecordFilter.Proofs.Segment.Paging

set_option autoImplicit false

/-!
# The trace of a run

A run reports each set that it folds in, with the number of keys that are left, and at its end a bench record. The
numbers are those that the algebra of sets of keys gives, however the run comes by the matches of its sets. A run that
fails breaks off its trace at the first set whose keys cannot be read, or before its end if the records cannot be
sorted, and reports nothing if it never got to fold.
-/

namespace RecordFilter

def Combinator.left : Combinator → Finset RecordKey → Finset RecordKey → Finset RecordKey
  | union, before, ks => before ∪ ks
  | intersect, before, ks => before ∩ ks
  | except, before, ks => before \ ks

section Tally

variable {α : Type} [HasFields α]

namespace Fold

def keySet? (field : FieldRef) (records : List α) : Option (Finset RecordKey) :=
  match records.mapM (RecordKey.of field) with
  | .ok ks => some ks.toFinset
  | .error _ => none

/-- The sort values of sets and the numbers of keys left by them, up to the first set whose keys cannot be read. -/
def tally (field : FieldRef) (before : Finset RecordKey) : List (CompiledSet × List α) → List (Int64 × Nat)
  | [] => []
  | (set, records) :: rest =>
    match set.combinator, keySet? field records with
    | some op, some ks => (set.sort, (op.left before ks).card) :: tally field (op.left before ks) rest
    | _, _ => []

end Fold

/-- The tally of the sets after the first, given the matches of all of them. -/
def CompiledSegment.tally (c : CompiledSegment) (subsets : List (List α)) : List (Int64 × Nat) :=
  match c.key, c.sets.zip subsets with
  | some field, (_, first) :: rest =>
    match Fold.keySet? field first with
    | some ks => Fold.tally field ks rest
    | none => []
  | _, _ => []

end Tally

def tallyLine (entry : Int64 × Nat) : String := s!"after condition set {entry.1.toInt}: {entry.2} records"

namespace Fold

variable {α : Type}

theorem mem_keys_within {ks : List RecordKey} {xs : List (RecordKey × α)} {key : RecordKey} :
    key ∈ keys (within ks xs) ↔ key ∈ keys xs ∧ key ∈ ks := by
  simp only [keys, within, List.mem_map, List.mem_filter, decide_eq_true_eq]
  constructor
  · rintro ⟨x, ⟨listed, kept⟩, rfl⟩
    exact ⟨⟨x, listed, rfl⟩, kept⟩
  · rintro ⟨⟨x, listed, rfl⟩, kept⟩
    exact ⟨x, ⟨listed, kept⟩, rfl⟩

theorem mem_keys_firsts {xs : List (RecordKey × α)} {key : RecordKey} : key ∈ keys (firsts xs) ↔ key ∈ keys xs := by
  induction xs with
  | nil => rfl
  | cons x xs ih =>
    have later : key ∈ keys (outside [x.1] (firsts xs)) ↔ key ∈ keys xs ∧ key ∉ [x.1] := by
      rw [mem_keys_outside, ih]
    rw [firsts]
    simp only [keys, List.map_cons, List.mem_cons] at later ⊢
    rw [later]
    simp only [List.not_mem_nil, or_false]
    tauto

theorem toFinset_keys_joined (op : Combinator) (running xs : List (RecordKey × α)) :
    (keys (joined op running xs)).toFinset = op.left (keys running).toFinset (keys xs).toFinset := by
  ext key
  cases op with
  | union =>
    rw [joined, keys_append, Combinator.left]
    simp only [List.mem_toFinset, List.mem_append, Finset.mem_union, mem_keys_outside, mem_keys_firsts]
    tauto
  | intersect =>
    rw [joined, Combinator.left, List.mem_toFinset, Finset.mem_inter, List.mem_toFinset, List.mem_toFinset,
      mem_keys_within]
  | except =>
    rw [joined, Combinator.left, List.mem_toFinset, Finset.mem_sdiff, List.mem_toFinset, List.mem_toFinset,
      mem_keys_outside]

variable [HasFields α] (field : FieldRef)

theorem keySet?_eq (records : List α) :
    keySet? field records = (keyed field records).toOption.map fun xs => (keys xs).toFinset := by
  rw [keySet?, mapM_key_eq_keyed]
  cases keyed field records <;> rfl

/-- Each step that succeeds is reported with the number of keys that the algebra of sets leaves. -/
theorem events_steps {r : Running α} (tracked : r.IsTracked) (rest : List (CompiledSet × List α)) :
    (steps field r rest).1 =
      (tally field (keys r.records).toFinset rest).map fun entry => .folded entry.1 entry.2 := by
  induction rest generalizing r with
  | nil => rfl
  | cons x rest ih =>
    obtain ⟨set, records⟩ := x
    rw [tally, keySet?_eq]
    cases hop : set.combinator with
    | none =>
      have failed : step field r set records = .error (.requiredIntersection set.sort) := by
        rw [step, combine, hop]
        rfl
      rw [steps, failed]
      rfl
    | some op =>
      have stepped := step_eq_joined field tracked hop records
      cases hkeys : keyed field records with
      | error e =>
        rw [hkeys] at stepped
        rw [steps, stepped]
        rfl
      | ok xs =>
        rw [hkeys] at stepped
        let running := joined op r.records xs
        have distinct : (keys running).Nodup := nodup_keys_joined op tracked.nodup xs
        have left : (keys running).toFinset = op.left (keys r.records).toFinset (keys xs).toFinset :=
          toFinset_keys_joined op r.records xs
        have count : running.length = (op.left (keys r.records).toFinset (keys xs).toFinset).card := by
          rw [← left, List.toFinset_card_of_nodup distinct, keys, List.length_map]
        have next : (⟨running, keys running⟩ : Running α).IsTracked :=
          Running.isTracked_refresh (r := ⟨running, []⟩) distinct
        rw [steps, stepped]
        change RunEvent.folded set.sort running.length :: (steps field ⟨running, keys running⟩ rest).1 = _
        rw [ih next, count, left]
        rfl

theorem map_fst_tally (before : Finset RecordKey) (rest : List (CompiledSet × List α)) :
    (tally field before rest).map Prod.fst <+: rest.map fun x => x.1.sort := by
  induction rest generalizing before with
  | nil => exact List.prefix_rfl
  | cons x rest ih =>
    obtain ⟨set, records⟩ := x
    rw [tally]
    split
    · rw [List.map_cons, List.map_cons, List.cons_prefix_cons]
      exact ⟨rfl, ih _⟩
    · exact List.nil_prefix

theorem length_events_steps {r last : Running α} {rest : List (CompiledSet × List α)}
    (h : (steps field r rest).2 = .ok last) : (steps field r rest).1.length = rest.length := by
  induction rest generalizing r with
  | nil => rfl
  | cons x rest ih =>
    obtain ⟨set, records⟩ := x
    rw [steps_cons, Outcome.bind_eq_ok_iff] at h
    obtain ⟨next, stepped, onward⟩ := h
    rw [steps, stepped]
    change (steps field next rest).1.length + 1 = rest.length + 1
    rw [ih onward]

end Fold

namespace CompiledSegment

variable {α : Type}

theorem map_sort_zip {sets : List CompiledSet} {subsets : List (List α)} (even : subsets.length = sets.length) :
    ((sets.zip subsets).tail.map fun x => x.1.sort) = sets.tail.map CompiledSet.sort := by
  have whole := List.map_fst_zip (Nat.le_of_eq even.symm)
  rw [List.map_tail, List.map_tail]
  conv_rhs => rw [← whole, List.map_map]
  rfl

variable [HasFields α] {c : CompiledSegment} {subsets : List (List α)}

theorem events_run (c : CompiledSegment) (subsets : List (List α)) :
    (Fold.run c.key (c.sets.zip subsets)).1 = (c.tally subsets).map fun entry => .folded entry.1 entry.2 := by
  unfold tally
  match c.key, c.sets.zip subsets with
  | none, [] | none, _ :: _ | some field, [] => rfl
  | some field, (set, first) :: rest =>
    have inserted := Fold.insertAll_eq_keyed field ⟨[], []⟩ first
    simp only [Fold.run, Fold.keySet?_eq]
    cases hkeys : Fold.keyed field first with
    | error e =>
      rw [hkeys] at inserted
      rw [inserted]
      rfl
    | ok xs =>
      rw [hkeys] at inserted
      rw [inserted]
      have tracked := Fold.Running.isTracked_insertKeyed Fold.Running.isTracked_empty xs
      have keys : (Fold.keys (Fold.Running.insertKeyed ⟨[], []⟩ xs).records).toFinset = (Fold.keys xs).toFinset := by
        rw [Fold.Running.records_insertKeyed Fold.Running.isTracked_empty, Fold.toFinset_keys_joined]
        exact Finset.empty_union _
      have folded := Fold.events_steps field tracked rest
      rw [keys] at folded
      exact folded

theorem map_fst_tally (even : subsets.length = c.sets.length) :
    (c.tally subsets).map Prod.fst <+: c.sets.tail.map CompiledSet.sort := by
  rw [← map_sort_zip even]
  unfold tally
  match c.key, c.sets.zip subsets with
  | none, _ | some field, [] => exact List.nil_prefix
  | some field, (set, first) :: rest =>
    cases keys : Fold.keySet? field first with
    | none =>
      simp only [keys]
      exact List.nil_prefix
    | some ks =>
      simp only [keys]
      exact Fold.map_fst_tally field ks rest

theorem length_events_run {field : FieldRef} {terms : List (CompiledSet × List α)} {records : List α}
    (h : (Fold.run (some field) terms).2 = .ok records) :
    (Fold.run (some field) terms).1.length = terms.tail.length := by
  cases terms with
  | nil => rfl
  | cons x rest =>
    obtain ⟨set, first⟩ := x
    rw [Fold.run_cons, Outcome.bind_eq_ok_iff] at h
    obtain ⟨r, inserted, folded⟩ := h
    obtain ⟨last, steps, -⟩ := Outcome.map_eq_ok_iff.1 folded
    rw [Fold.run, inserted]
    exact Fold.length_events_steps field steps

/-- A fold that succeeds has told of every set after the first. -/
theorem map_fst_tally_of_ok {k : Compiler} {segment : Segment} (compiled : k.CompilesSegment segment c)
    (even : subsets.length = c.sets.length) {records : List α}
    (h : (Fold.run c.key (c.sets.zip subsets)).2 = .ok records) :
    (c.tally subsets).map Prod.fst = c.sets.tail.map CompiledSet.sort := by
  refine (map_fst_tally even).eq_of_length ?_
  rw [List.length_map, List.length_map]
  rcases Nat.lt_or_ge 1 c.sets.length with several | few
  · obtain ⟨field, -, key⟩ := compiled.exists_key several
    have events := congrArg List.length (events_run c subsets)
    rw [key] at h events
    rw [length_events_run h, List.length_map] at events
    rw [← events, List.length_tail, List.length_tail, List.length_zip, even, Nat.min_self]
  · have told : c.tally subsets = [] := by
      rw [tally, compiled.key_eq_none few]
    rw [told, List.length_tail]
    exact (Nat.sub_eq_zero_of_le few).symm

end CompiledSegment

section Answers

variable {σ α : Type}

/-- What a source answers to one set after another, up to the first call that gives no matches. -/
def Source.answers (source : Source σ α) : List CompiledSet → σ → List (Except Stop (List α))
  | [], _ => []
  | set :: sets, s =>
    match source.ask set.predicate s with
    | (.error stop, _) => [.error stop]
    | (.ok as, t) => .ok as :: source.answers sets t

def Way.answers [HasFields α] : Way → CompiledSegment → Source σ α → σ → List (Except Stop (List α))
  | withWorkers schedule, c, source, s =>
    if c.sets.length < 2 then source.answers c.sets s else (c.outcomes source schedule s).1
  | inTurn, c, source, s | waitedFor, c, source, s => source.answers c.sets s

/-- Either all of the answers are matches, one list for each of so many sets, or one of them is a stop. -/
def Settles (sets : Nat) (answers : List (Except Stop (List α))) : Except Stop (List (List α)) → Prop
  | .ok subsets => answers = subsets.map .ok ∧ subsets.length = sets
  | .error _ => ∃ stop, .error stop ∈ answers

variable {n : Nat} {as : List α} {answers : List (Except Stop (List α))} {collected : Except Stop (List (List α))}

theorem Settles.cons (h : Settles n answers collected) :
    Settles (n + 1) (.ok as :: answers) (collected.map (as :: ·)) := by
  cases collected with
  | error stop =>
    obtain ⟨stop, listed⟩ := h
    exact ⟨stop, List.mem_cons_of_mem _ listed⟩
  | ok subsets =>
    obtain ⟨whole, even⟩ := h
    exact ⟨congrArg (Except.ok as :: ·) whole, congrArg (· + 1) even⟩

theorem settles_answers (source : Source σ α) (sets : List CompiledSet) (s : σ) :
    Settles sets.length (source.answers sets s) (CompiledSegment.collect source sets s).1 := by
  induction sets generalizing s with
  | nil => exact ⟨rfl, rfl⟩
  | cons set sets ih =>
    rw [Source.answers, CompiledSegment.collect]
    obtain ⟨answer, t⟩ := source.ask set.predicate s
    cases answer with
    | error stop => exact ⟨stop, List.mem_singleton_self _⟩
    | ok as =>
      have rest : Settles (sets.length + 1) (.ok as :: source.answers sets t) _ := (ih t).cons
      dsimp only
      generalize CompiledSegment.collect source sets t = ending at rest ⊢
      obtain ⟨collected, u⟩ := ending
      cases collected <;> exact rest

theorem settles_join (answers : List (Except Stop (List α))) :
    Settles answers.length answers (CompiledSegment.join answers) := by
  induction answers with
  | nil => exact ⟨rfl, rfl⟩
  | cons answer answers ih =>
    cases answer with
    | error stop =>
      have stopped : ∃ last, CompiledSegment.join (.error stop :: answers) = .error last := by
        rw [CompiledSegment.join]
        split <;> exact ⟨_, rfl⟩
      obtain ⟨last, joined⟩ := stopped
      rw [joined]
      exact ⟨stop, List.mem_cons_self⟩
    | ok as => exact ih.cons

/-- Whatever way a run takes, it ends with what its sets were answered. -/
theorem Way.exists_settle [HasFields α] [Sorter] (way : Way) {c : CompiledSegment} (nonempty : c.sets ≠ [])
    (source : Source σ α) (s : σ) :
    ∃ matched collected, way.run c source s = c.settle matched collected ∧
      Settles c.sets.length (way.answers c source s) collected.1 := by
  cases way with
  | inTurn => exact ⟨_, _, CompiledSegment.execute_eq_settle nonempty source s, settles_answers source c.sets s⟩
  | waitedFor => exact ⟨_, _, CompiledSegment.executeAsync_eq_settle nonempty source s, settles_answers source c.sets s⟩
  | withWorkers schedule =>
    by_cases few : c.sets.length < 2
    · have alone : run (.withWorkers schedule) c source s = c.execute source s := if_pos few
      rw [answers, if_pos few, alone]
      exact ⟨_, _, CompiledSegment.execute_eq_settle nonempty source s, settles_answers source c.sets s⟩
    · rw [answers, if_neg few]
      have settled := settles_join (c.outcomes source schedule s).1
      rw [c.length_outcomes] at settled
      exact ⟨_, _, CompiledSegment.executeParallel_eq_settle (Nat.le_of_not_lt few) source schedule s, settled⟩

end Answers

section Told

variable {σ α : Type}

namespace CompiledSegment

variable (c : CompiledSegment)

theorem executeAll_events (source : Source σ α) (s : σ) :
    (c.executeAll source s).events = c.lastEvents (c.executeAll source s).result := by
  rw [executeAll]
  split
  · rfl
  obtain ⟨counted, t⟩ := source.count .always s
  cases counted with
  | error stop => rfl
  | ok total =>
    dsimp only
    obtain ⟨data, u⟩ := source.window .always c.orders (c.bounds total).1 (c.bounds total).2 t
    cases data <;> rfl

variable [HasFields α]

/-- What the trace of a run tells of its sets, given what they were answered and what came of the run. -/
structure Tells (answers : List (Except Stop (List α))) (result : Except Stop (Page α)) (told : List (Int64 × Nat)) :
    Prop where
  begins : told.map Prod.fst <+: c.sets.tail.map CompiledSet.sort
  counts : ∀ subsets : List (List α), answers = subsets.map .ok → told = c.tally subsets
  silent : (∃ stop, .error stop ∈ answers) ∨ result = .error (.failed .cancelled) → told = []
  whole : ∀ page, result = .ok page → told.map Prod.fst = c.sets.tail.map CompiledSet.sort ∧
    ∃ subsets : List (List α), answers = subsets.map .ok ∧ subsets.length = c.sets.length

variable {c}

theorem conclude_events [Sorter] (subsets : List (List α)) (matched : List (Int64 × Nat)) (s : σ) :
    (c.conclude subsets matched s).events =
      ((c.tally subsets).map fun entry => .folded entry.1 entry.2) ++ c.lastEvents (c.pageOf subsets) := by
  rw [c.conclude_eq, events_run]

theorem tells_nothing {answers : List (Except Stop (List α))} {stop : Stop} (stopped : .error stop ∈ answers)
    (last : Stop) : c.Tells answers (.error last) [] where
  begins := List.nil_prefix
  counts subsets whole := by
    rw [whole, List.mem_map] at stopped
    obtain ⟨as, -, same⟩ := stopped
    cases same
  silent _ := rfl
  whole page ok := by cases ok

theorem tells_tally [Sorter] {k : Compiler} {segment : Segment} (compiled : k.CompilesSegment segment c)
    {subsets : List (List α)} (even : subsets.length = c.sets.length) :
    c.Tells (subsets.map .ok) (c.pageOf subsets) (c.tally subsets) where
  begins := map_fst_tally even
  counts others same := by
    rw [(List.map_injective_iff.2 fun _ _ => Except.ok.inj) same]
  silent := by
    rintro (⟨stop, listed⟩ | cancelled)
    · obtain ⟨as, -, same⟩ := List.mem_map.1 listed
      cases same
    · obtain ⟨e, ⟨what, rfl⟩ | ⟨sort, rfl⟩, ⟨⟩⟩ | ⟨⟨⟩, -⟩ := c.pageOf_eq_error cancelled
  whole page ok := by
    refine ⟨?_, subsets, rfl, even⟩
    cases folded : (Fold.run c.key (c.sets.zip subsets)).2 with
    | error e =>
      rw [pageOf, folded] at ok
      cases ok
    | ok records => exact map_fst_tally_of_ok compiled even folded

theorem tells_of_sets_eq_nil (empty : c.sets = []) (result : Except Stop (Page α)) : c.Tells [] result [] where
  begins := List.nil_prefix
  counts subsets none := by
    rw [tally, List.map_eq_nil_iff.1 none.symm, List.zip_nil_right]
    cases c.key <;> rfl
  silent _ := rfl
  whole page _ := by
    rw [empty]
    exact ⟨rfl, [], rfl, rfl⟩

end CompiledSegment

variable [HasFields α] [Sorter]

/-- Without sets there is nothing to tell but the end. -/
theorem Way.run_of_sets_eq_nil (way : Way) {c : CompiledSegment} (empty : c.sets = []) (source : Source σ α) (s : σ) :
    way.answers c source s = [] ∧
      (way.run c source s).events = c.lastEvents (way.run c source s).result := by
  have few : c.sets.length < 2 := by
    rw [empty]
    decide
  have all : c.execute source s = c.executeAll source s := by
    rw [CompiledSegment.execute, if_pos (List.isEmpty_iff.2 empty)]
  have none : source.answers c.sets s = [] := by
    rw [empty, Source.answers]
  cases way with
  | inTurn =>
    refine ⟨none, ?_⟩
    rw [run, all]
    exact c.executeAll_events source s
  | waitedFor =>
    refine ⟨none, ?_⟩
    rw [run, CompiledSegment.executeAsync, if_pos (List.isEmpty_iff.2 empty)]
    obtain ⟨asked, t⟩ := source.ask .always s
    cases asked with
    | error stop => rfl
    | ok records =>
      dsimp only
      cases c.finish records <;> rfl
  | withWorkers schedule =>
    have alone : run (.withWorkers schedule) c source s = c.execute source s := if_pos few
    rw [answers, if_pos few, alone, all]
    exact ⟨none, c.executeAll_events source s⟩

/-- The events of a run are what it tells of its sets, and then its end. -/
theorem Way.exists_told (way : Way) {k : Compiler} {segment : Segment} {c : CompiledSegment}
    (compiled : k.CompilesSegment segment c) (source : Source σ α) (s : σ) :
    ∃ told, c.Tells (way.answers c source s) (way.run c source s).result told ∧
      (way.run c source s).events =
        (told.map fun entry => .folded entry.1 entry.2) ++ c.lastEvents (way.run c source s).result := by
  by_cases empty : c.sets = []
  · obtain ⟨answers, events⟩ := way.run_of_sets_eq_nil empty source s
    rw [answers]
    exact ⟨[], CompiledSegment.tells_of_sets_eq_nil empty _, events⟩
  · obtain ⟨matched, ⟨collected, t⟩, ending, settled⟩ := way.exists_settle empty source s
    rw [ending]
    cases collected with
    | error stop =>
      obtain ⟨first, stopped⟩ := settled
      exact ⟨[], CompiledSegment.tells_nothing stopped stop, rfl⟩
    | ok subsets =>
      obtain ⟨answers, even⟩ := settled
      rw [answers, CompiledSegment.settle, c.conclude_result]
      exact ⟨_, CompiledSegment.tells_tally compiled even, CompiledSegment.conclude_events subsets _ t⟩

end Told

namespace CaptureThreads

def report (ts : CaptureThreads) (i elapsed : Nat) (events : List RunEvent) : CaptureThreads :=
  events.foldl (fun ts event => ts.emit i (event.line elapsed)) ts

theorem buffer_report (ts : CaptureThreads) (i elapsed : Nat) (events : List RunEvent) :
    ((ts.report i elapsed events).thread i).buffer =
      (ts.thread i).buffer.map (· ++ events.map (RunEvent.line elapsed)) := by
  induction events generalizing ts with
  | nil => simp [report]
  | cons event events ih =>
    change ((report (ts.emit i (event.line elapsed)) i elapsed events).thread i).buffer = _
    rw [ih, emit, thread_set_self, CaptureThread.emit, Option.map_map, List.map_cons]
    congr 1
    funext lines
    simp

theorem thread_report_of_ne (ts : CaptureThreads) {i j : Nat} (elapsed : Nat) (other : j ≠ i) (events : List RunEvent) :
    (ts.report i elapsed events).thread j = ts.thread j := by
  induction events generalizing ts with
  | nil => rfl
  | cons event events ih => exact (ih _).trans (ts.thread_set_of_ne other _)

end CaptureThreads

namespace CaptureThread

theorem records_append {before after : CaptureThread} {lines : List String} (component : String)
    (h : after.lines = before.lines ++ lines) :
    after.records component = before.records component ++ lines.filterMap (Bench.record? component) := by
  rw [records, h, List.filterMap_append, records]

end CaptureThread

theorem filterMap_tallyLine (component : String) (told : List (Int64 × Nat)) :
    (told.map tallyLine).filterMap (Bench.record? component) = [] := by
  rw [List.filterMap_map, List.filterMap_eq_nil_iff]
  exact fun entry _ => Bench.record?_folded component 0 entry.1 entry.2

namespace Compiler

/-- The trace that a run leaves on its own thread, where lines are kept, and on no other. Each set after the first that
was folded in has a line, in the order of the sort values, with the number of keys that were left; then a run that
succeeds has one bench record. A run that fails has no such record, and no lines if it was cancelled or if the source
failed. A thread keeps lines as long as none of its captures is dropped; one that is left when another was dropped gets
no more lines, and nothing is said of it here. -/
theorem report_run {σ α : Type} [HasFields α] [Sorter] {k : Compiler} {segment : Segment} {c : CompiledSegment}
    (compiled : k.compileSegment segment = .ok c) (way : Way) (source : Source σ α) (s : σ) {ts : CaptureThreads}
    {i : Nat} {kept : List String} (keeping : (ts.thread i).buffer = some kept) (elapsed : Nat) {after : CaptureThreads}
    (reported : ts.report i elapsed (way.run c source s).events = after) :
    (c.sets.map CompiledSet.sort).Pairwise (· < ·) ∧ (∀ j ≠ i, after.thread j = ts.thread j) ∧
      ∃ told, c.Tells (way.answers c source s) (way.run c source s).result told ∧
        (∀ page, (way.run c source s).result = .ok page →
          (after.thread i).lines = kept ++ told.map tallyLine ++ [Bench.line "segment" "execute"
            [("sets", c.sets.length), ("duration_ms", elapsed), ("total_count", page.total),
              ("result_count", page.data.length)]] ∧
          ((∀ n ∈ [c.sets.length, elapsed, page.total, page.data.length], n < 2 ^ 64) →
            ∃ record, (after.thread i).records "segment" = (ts.thread i).records "segment" ++ [record] ∧
              record.get? "op" = some (.ofString "execute") ∧ record.get? "sets" = some (.ofNat c.sets.length) ∧
              record.get? "total_count" = some (.ofNat page.total) ∧
              record.get? "result_count" = some (.ofNat page.data.length))) ∧
        ∀ stop, (way.run c source s).result = .error stop →
          (after.thread i).lines = kept ++ told.map tallyLine ∧
            ∀ component, (after.thread i).records component = (ts.thread i).records component := by
  have compiles := k.compileSegment_eq_ok_iff.1 compiled
  obtain ⟨told, tells, events⟩ := way.exists_told compiles source s
  have before : (ts.thread i).lines = kept := congrArg (Option.getD · []) keeping
  have lines : (after.thread i).lines = kept ++ (told.map tallyLine ++
      (c.lastEvents (way.run c source s).result).map (RunEvent.line elapsed)) := by
    have buffer := ts.buffer_report i elapsed (way.run c source s).events
    rw [reported, keeping, events, List.map_append, List.map_map] at buffer
    exact congrArg (Option.getD · []) buffer
  refine ⟨List.pairwise_map.2 compiles.pairwise_sort_lt, ?_, told, tells, ?_, ?_⟩
  · intro j other
    rw [← reported, ts.thread_report_of_ne elapsed other]
  · intro page succeeded
    rw [succeeded] at lines
    refine ⟨lines.trans (List.append_assoc _ _ _).symm, fun fits => ?_⟩
    have records := CaptureThread.records_append "segment" (lines.trans (congrArg (· ++ _) before.symm))
    have record : ((c.lastEvents (.ok page)).map (RunEvent.line elapsed)).filterMap (Bench.record? "segment") =
        [Bench.runRecord c.sets.length elapsed page.total page.data.length] :=
      List.filterMap_cons_some (Bench.record?_run fits)
    rw [List.filterMap_append, filterMap_tallyLine, List.nil_append, record] at records
    exact ⟨_, records, rfl, rfl, rfl, rfl⟩
  · intro stop failed
    rw [failed] at lines
    have told_lines : (after.thread i).lines = (ts.thread i).lines ++ told.map tallyLine := by
      rw [lines, before]
      exact congrArg (kept ++ ·) (List.append_nil _)
    refine ⟨told_lines.trans (congrArg (· ++ _) before), fun component => ?_⟩
    rw [CaptureThread.records_append component told_lines, filterMap_tallyLine, List.append_nil]

end Compiler

namespace CompiledSegment

def threefoldCompiled : CompiledSegment := ⟨threefoldSets, [], none, some ["id"]⟩

def begun : CaptureThreads := CaptureThreads.start.set 0 ((CaptureThread.start.capture "run").emit "begun")

def idRow (name : String) : Record := [("id", .text name)]

def calmAnswers : List (List Record) := [[idRow "p", idRow "q", idRow "p"], [idRow "q"], [idRow "r", idRow "p"]]

def namelessAnswers : List (List Record) := [[idRow "p", idRow "q", idRow "p"], [idRow "q"], [idRow "r", []]]

/-- Workers that bring everything, and a run in turn that fails after its first line. -/
theorem report_run_threefold :
    keyFilters.compileSegment threefold = .ok threefoldCompiled ∧ (begun.thread 0).buffer = some ["begun"] ∧
      ((begun.report 0 7 ((Way.withWorkers []).run threefoldCompiled scripted (calmAnswers.map .ok)).events).thread
        0).lines =
          ["begun", "after condition set 6: 1 records", "after condition set 9: 2 records",
            "\x7b\"bench\":\"segment\",\"duration_ms\":7,\"op\":\"execute\",\"result_count\":2,\"sets\":3," ++
              "\"total_count\":2\x7d"] ∧
      ((begun.report 0 7 (Way.inTurn.run threefoldCompiled scripted (namelessAnswers.map .ok)).events).thread 0).lines =
        ["begun", "after condition set 6: 1 records"] := by
  have compiled : keyFilters.compileSegment threefold = .ok threefoldCompiled := compileSegment_threefold
  have keeping : (begun.thread 0).buffer = some ["begun"] := rfl
  have succeeded : ((Way.withWorkers []).run threefoldCompiled scripted (calmAnswers.map .ok)).result =
      .ok ⟨1, 2, 1, 2, [idRow "p", idRow "r"]⟩ := by
    cbv
  have failed : (Way.inTurn.run threefoldCompiled scripted (namelessAnswers.map .ok)).result =
      .error (.failed (.invalidRecordKey "Null")) := rfl
  obtain ⟨-, -, told, tells, whole, -⟩ :=
    Compiler.report_run compiled (.withWorkers []) scripted (calmAnswers.map .ok) keeping 7 rfl
  obtain ⟨-, -, brokenOff, tellsLess, -, broken⟩ :=
    Compiler.report_run compiled .inTurn scripted (namelessAnswers.map .ok) keeping 7 rfl
  have counts : told = [(6, 1), (9, 2)] := (tells.counts calmAnswers rfl).trans (by decide +kernel)
  have fewer : brokenOff = [(6, 1)] := (tellsLess.counts namelessAnswers rfl).trans (by decide +kernel)
  refine ⟨compiled, keeping, ?_, ?_⟩
  · rw [(whole _ succeeded).1, counts]
    decide +kernel
  · rw [(broken _ failed).1, fewer]
    decide +kernel

end CompiledSegment

end RecordFilter
