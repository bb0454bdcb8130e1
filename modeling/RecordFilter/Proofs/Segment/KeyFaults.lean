import Mathlib
import RecordFilter.Proofs.Record.Sorting
import RecordFilter.Proofs.Segment.Compiled
import RecordFilter.Proofs.Segment.Fixed

set_option autoImplicit false

/-!
# Rows without a key

Where sets are combined, the key of every row that satisfies one of them is read, whatever the combinators are and
whatever remains of the rows before. But for a sort that panics, a run over rows fails for no other reason than a row
that has no key.
-/

namespace RecordFilter

def Value.IsKeyless (v : Value) : Prop :=
  v = .null ∨ (∃ items, v = .list items) ∨ ∃ fields, v = .record fields

theorem RecordKey.ofValue_eq_error_iff {v : Value} {e : FilterError} :
    RecordKey.ofValue v = .error e ↔ v.IsKeyless ∧ e = .invalidRecordKey v.listing := by
  cases v <;> simp [RecordKey.ofValue, Value.IsKeyless, eq_comm]

namespace Fold

open Outcome (status)

variable {α : Type} [HasFields α] {field : FieldRef}

theorem status_insertAll (r : Running α) (records : List α) :
    status (insertAll field r records) = status (records.mapM (RecordKey.of field)) := by
  rw [insertAll_eq_keyed, mapM_key_eq_keyed, Outcome.status_map, Outcome.status_map]

theorem status_step {set : CompiledSet} (present : set.combinator.isSome = true) (r : Running α) (records : List α) :
    status (step field r set records) = status (records.mapM (RecordKey.of field)) := by
  obtain ⟨op, hop⟩ := Option.isSome_iff_exists.1 present
  rw [step, Outcome.status_map, combine, hop]
  cases op with
  | union => exact status_insertAll r records
  | intersect => exact Outcome.status_map _ _
  | except => exact Outcome.status_map _ _

theorem status_mapM_append (as bs : List α) :
    status ((as ++ bs).mapM (RecordKey.of field)) =
      status (as.mapM (RecordKey.of field)) >>= fun _ => status (bs.mapM (RecordKey.of field)) := by
  rw [List.mapM_append]
  exact Outcome.status_bind (fun keys => Outcome.status_map _ (keys ++ ·)) _

/-- The keys are read one set after another, also where nothing is left that a set could keep. -/
theorem status_steps {rest : List (CompiledSet × List α)} (present : ∀ x ∈ rest, x.1.combinator.isSome = true)
    (r : Running α) :
    status (steps field r rest).2 = status ((rest.flatMap Prod.snd).mapM (RecordKey.of field)) := by
  induction rest generalizing r with
  | nil => rfl
  | cons x rest ih =>
    obtain ⟨set, records⟩ := x
    rw [List.forall_mem_cons] at present
    rw [steps_cons, Outcome.status_bind (ih present.2), status_step present.1, List.flatMap_cons, status_mapM_append]

theorem status_run {terms : List (CompiledSet × List α)}
    (present : ∀ x ∈ terms.tail, x.1.combinator.isSome = true) :
    status (run (some field) terms).2 = status ((terms.flatMap Prod.snd).mapM (RecordKey.of field)) := by
  cases terms with
  | nil => rfl
  | cons x rest =>
    obtain ⟨set, first⟩ := x
    have later (r : Running α) : status ((steps field r rest).2.map fun r => r.records.map Prod.snd) =
        status ((rest.flatMap Prod.snd).mapM (RecordKey.of field)) :=
      (Outcome.status_map _ _).trans (status_steps present r)
    rw [run_cons, Outcome.status_bind later, status_insertAll, List.flatMap_cons, status_mapM_append]

/-- A fold over sets with combinators fails exactly if one of the records that it gets has no key. -/
theorem run_eq_error {terms : List (CompiledSet × List α)} (present : ∀ x ∈ terms.tail, x.1.combinator.isSome = true)
    {e : FilterError} (h : (run (some field) terms).2 = .error e) :
    ∃ x ∈ terms, ∃ a ∈ x.2, RecordKey.of field a = .error e := by
  have failed := Outcome.eq_error_of_status_eq (status_run present) h
  obtain ⟨a, ha, he⟩ := Outcome.exists_of_mapM_eq_error failed
  obtain ⟨x, hx, ha⟩ := List.mem_flatMap.1 ha
  exact ⟨x, hx, a, ha, he⟩

theorem exists_run_eq_error {terms : List (CompiledSet × List α)}
    (present : ∀ x ∈ terms.tail, x.1.combinator.isSome = true) {x : CompiledSet × List α} (hx : x ∈ terms) {a : α}
    (ha : a ∈ x.2) {e : FilterError} (he : RecordKey.of field a = .error e) :
    ∃ e', (run (some field) terms).2 = .error e' := by
  cases hkeys : (terms.flatMap Prod.snd).mapM (RecordKey.of field) with
  | error e' => exact ⟨e', Outcome.eq_error_of_status_eq (status_run present).symm hkeys⟩
  | ok keys =>
    obtain ⟨key, hkey⟩ := Outcome.exists_mapM_ok_iff.1 ⟨keys, hkeys⟩ a (List.mem_flatMap_of_mem hx ha)
    rw [he] at hkey
    cases hkey

end Fold

namespace Compiler

variable {α : Type} [HasFields α] (k : Compiler)

/-- The row holds the value where the schema says that its key is. -/
def HoldsAtKey (row : α) (v : Value) : Prop :=
  ∃ key path, k.schema.key = some key ∧ k.schema.resolve key = .ok path ∧ (scope row).follow path.names = v

theorem recordKeyField_eq_ok {field : FieldRef} (h : k.recordKeyField = .ok field) :
    ∃ key path, k.schema.key = some key ∧ k.schema.resolve key = .ok path ∧ path.names = field := by
  rw [recordKeyField] at h
  cases hkey : k.schema.key with
  | none =>
    rw [hkey] at h
    cases h
  | some key =>
    rw [hkey] at h
    obtain ⟨path, hpath, h⟩ := Outcome.bind_eq_ok_iff.1 h
    obtain ⟨-, h⟩ := Outcome.ite_error_eq_ok_iff.1 h
    cases h
    exact ⟨key, path, rfl, hpath, rfl⟩

theorem holdsAtKey_iff {field : FieldRef} (h : k.recordKeyField = .ok field) (row : α) (v : Value) :
    k.HoldsAtKey row v ↔ (scope row).follow field = v := by
  obtain ⟨key, path, hkey, hpath, rfl⟩ := k.recordKeyField_eq_ok h
  constructor
  · rintro ⟨key', path', hkey', hpath', rfl⟩
    rw [hkey, Option.some.injEq] at hkey'
    subst hkey'
    rw [hpath, Except.ok.injEq] at hpath'
    rw [hpath']
  · intro held
    exact ⟨key, path, hkey, hpath, held⟩

/-- A row that satisfies one of the sets and holds a value that is no key. -/
structure IsFaulty (c : CompiledSegment) (row : α) (v : Value) : Prop where
  accepted : ∃ set ∈ c.sets, set.predicate.accepts row = true
  held : k.HoldsAtKey row v
  keyless : v.IsKeyless

variable {k} {segment : Segment} {c : CompiledSegment}

theorem SetsCompile.combinators_of_tail {sets : List ConditionSet} {cs : List CompiledSet}
    (h : k.SetsCompile sets cs) : ∀ set ∈ cs.tail, set.combinator.isSome = true := by
  cases h with
  | nil => simp
  | @cons first rest c cs first_ok rest_ok =>
    intro set hset
    obtain ⟨spec, -, present, compiled⟩ := Outcome.exists_of_forall₂_of_mem rest_ok.flip hset
    obtain ⟨p, -, rfl⟩ := Outcome.map_eq_ok_iff.1 compiled
    exact present

namespace CompilesSegment

/-- Whatever the sets bring, folding them fails on nothing but a record without a key. -/
theorem run_eq_error (h : k.CompilesSegment segment c) {subsets : List (List α)} {e : FilterError}
    (failed : (Fold.run c.key (c.sets.zip subsets)).2 = .error e) :
    ∃ field x a, k.recordKeyField = .ok field ∧ c.key = some field ∧ x ∈ c.sets.zip subsets ∧ a ∈ x.2 ∧
      RecordKey.of field a = .error e := by
  have present : ∀ x ∈ (c.sets.zip subsets).tail, x.1.combinator.isSome = true := by
    intro x hx
    rw [List.tail_zip] at hx
    exact h.sets.combinators_of_tail x.1 (List.of_mem_zip hx).1
  by_cases several : 1 < c.sets.length
  · obtain ⟨field, hfield, hkey⟩ := h.exists_key several
    rw [hkey] at failed
    obtain ⟨x, hx, a, ha, he⟩ := Fold.run_eq_error present failed
    exact ⟨field, x, a, hfield, hkey, hx, ha, he⟩
  · rw [h.key_eq_none (by omega)] at failed
    cases hterms : c.sets.zip subsets with
    | nil =>
      rw [hterms] at failed
      cases failed
    | cons x rest =>
      rw [hterms] at failed
      cases failed

theorem combined_memory_eq_error (h : k.CompilesSegment segment c) {rows : List α} {e : FilterError}
    (failed : (FixedSource.memory rows).combined c = .error e) :
    2 ≤ segment.sets.length ∧ ∃ row ∈ rows, ∃ v, k.IsFaulty c row v ∧ e = .invalidRecordKey v.listing := by
  have nonempty : c.sets ≠ [] := by
    intro bare
    rw [FixedSource.combined, bare] at failed
    cases failed
  rw [FixedSource.combined_memory rows nonempty, List.map_prod_left_eq_zip] at failed
  obtain ⟨field, x, row, hfield, hkey, hx, hrow, he⟩ := h.run_eq_error failed
  rw [← List.map_prod_left_eq_zip, List.mem_map] at hx
  obtain ⟨set, hset, rfl⟩ := hx
  obtain ⟨hrow, accepts⟩ := List.mem_filter.1 hrow
  obtain ⟨keyless, rfl⟩ := RecordKey.ofValue_eq_error_iff.1 he
  have several : 2 ≤ segment.sets.length := by
    by_contra few
    rw [h.key_eq_none (by rw [h.length_sets]; omega)] at hkey
    cases hkey
  exact ⟨several, row, hrow, _, ⟨⟨set, hset, accepts⟩, (k.holdsAtKey_iff hfield row _).2 rfl, keyless⟩, rfl⟩

theorem exists_combined_memory_eq_error (h : k.CompilesSegment segment c) (several : 2 ≤ segment.sets.length)
    {rows : List α} {row : α} (hrow : row ∈ rows) {v : Value} (faulty : k.IsFaulty c row v) :
    ∃ e, (FixedSource.memory rows).combined c = .error e := by
  obtain ⟨set, hset, accepts⟩ := faulty.accepted
  obtain ⟨field, hfield, hkey⟩ := h.exists_key (h.length_sets ▸ several)
  have unread : RecordKey.of field row = .error (.invalidRecordKey v.listing) := by
    rw [RecordKey.of, (k.holdsAtKey_iff hfield row v).1 faulty.held, RecordKey.ofValue_eq_error_iff]
    exact ⟨faulty.keyless, rfl⟩
  rw [FixedSource.combined_memory rows (List.ne_nil_of_mem hset), hkey]
  refine Fold.exists_run_eq_error ?_ (List.mem_map_of_mem hset) (List.mem_filter.2 ⟨hrow, accepts⟩) unread
  intro x hx
  rw [← List.map_tail, List.mem_map] at hx
  obtain ⟨later, hlater, rfl⟩ := hx
  exact h.sets.combinators_of_tail later hlater

end CompilesSegment

/-- A run over rows fails exactly if several sets are combined and a row that satisfies one of them has no key, which
is what the error tells. Only the sort may panic besides, and only over rows that the keys do not compare exactly. That
a combinator is missing is never found out while sets are folded, and with at most one set there is no key to read. -/
theorem execute_memory_fails_iff [Sorter] (h : k.compileSegment segment = .ok c) (rows : List α) :
    ((∃ e, (c.execute (.memory rows) false).result = .error (.failed e)) ↔
        2 ≤ segment.sets.length ∧ ∃ row ∈ rows, ∃ v, k.IsFaulty c row v) ∧
      (∀ e, (c.execute (.memory rows) false).result = .error (.failed e) →
        ∃ row ∈ rows, ∃ v, k.IsFaulty c row v ∧ e = .invalidRecordKey v.listing) ∧
      ((c.execute (.memory rows) false).result = .error .panicked → ¬ ComparesExactly c.orders rows) ∧
      (∀ (subsets : List (List α)) (sort : Int64),
        (Fold.run c.key (c.sets.zip subsets)).2 ≠ .error (.requiredIntersection sort)) ∧
      (segment.sets.length ≤ 1 → c.key = none) := by
  have compiled := k.compileSegment_eq_ok_iff.1 h
  have result : (c.execute (.memory rows) false).result = (FixedSource.memory rows).outcome c :=
    (FixedSource.memory rows).execute_result c
  rw [result]
  refine ⟨⟨?_, ?_⟩, ?_, ?_, ?_, ?_⟩
  · rintro ⟨e, he⟩
    rw [FixedSource.outcome_eq_failed_iff] at he
    obtain ⟨several, row, hrow, v, faulty, -⟩ := compiled.combined_memory_eq_error he
    exact ⟨several, row, hrow, v, faulty⟩
  · rintro ⟨several, row, hrow, v, faulty⟩
    obtain ⟨e, he⟩ := compiled.exists_combined_memory_eq_error several hrow faulty
    exact ⟨e, FixedSource.outcome_eq_failed_iff.2 he⟩
  · intro e he
    rw [FixedSource.outcome_eq_failed_iff] at he
    obtain ⟨-, row, hrow, v, faulty, rfl⟩ := compiled.combined_memory_eq_error he
    exact ⟨row, hrow, v, faulty, rfl⟩
  · intro panicked exactly
    obtain ⟨records, combined, unsorted⟩ := FixedSource.outcome_eq_panicked_iff.1 panicked
    have inexactly := not_comparesExactly_of_orderRecords unsorted
    exact inexactly (exactly.of_subset (FixedSource.combined_memory_subset combined))
  · intro subsets sort hrun
    obtain ⟨field, -, a, -, -, -, -, he⟩ := compiled.run_eq_error hrun
    obtain ⟨what, hwhat⟩ := Fold.key_eq_error field he
    cases hwhat
  · intro few
    exact compiled.key_eq_none (by rw [compiled.length_sets]; exact few)

def nameFilters : Compiler := ⟨⟨"rows", [("n", .scalar .text)], some "n"⟩, .standard⟩

def namedButNameless : Segment where
  sets :=
    [⟨2, some .intersect, ⟨1, .and, [⟨1, "n", .text, .isNull, []⟩], []⟩⟩,
      ⟨1, none, ⟨1, .and, [⟨1, "n", .text, .isNotNull, []⟩], []⟩⟩]
  orders := none
  page := none

/-- No row is left to be kept or dropped, and yet the row without a name is asked for its key. -/
theorem execute_namedButNameless :
    ∃ c, nameFilters.compileSegment namedButNameless = .ok c ∧
      (c.execute (.memory ([[]] : List Record)) false).result = .error (.failed (.invalidRecordKey "Null")) := by
  have compiled : nameFilters.compileSegment namedButNameless = .ok
      ⟨[⟨1, none, .isNotNull ["n"]⟩, ⟨2, some .intersect, .isNull ["n"]⟩], [], none, some ["n"]⟩ := by
    cbv
  have resolved : nameFilters.schema.resolve "n" = .ok ⟨[⟨"n", 0⟩], .text⟩ := by cbv
  obtain ⟨fails, told, -⟩ := execute_memory_fails_iff compiled ([[]] : List Record)
  have faulty : nameFilters.IsFaulty
      ⟨[⟨1, none, .isNotNull ["n"]⟩, ⟨2, some .intersect, .isNull ["n"]⟩], [], none, some ["n"]⟩ ([] : Record) .null :=
    ⟨⟨⟨2, some .intersect, .isNull ["n"]⟩, by simp, by cbv⟩, ⟨"n", _, rfl, resolved, by cbv⟩, Or.inl rfl⟩
  obtain ⟨e, he⟩ := fails.2 ⟨by decide, [], by simp, .null, faulty⟩
  obtain ⟨row, hrow, v, ⟨-, ⟨key, path, hkey, hpath, held⟩, -⟩, rfl⟩ := told e he
  obtain rfl : row = [] := List.mem_singleton.1 hrow
  cases hkey
  cases resolved.symm.trans hpath
  subst held
  exact ⟨_, compiled, he⟩

end Compiler

end RecordFilter
