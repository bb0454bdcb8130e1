import Mathlib
import RecordFilter.Proofs.Value.Order
import RecordFilter.Record.Order

set_option autoImplicit false

/-!
# Sorting records by keys

Where no double stands beside whole numbers that it could blur, records are put in order by their keys, those that no
key tells apart stay in their order, and there is no other list like that. Records without a value come first, or last
under a descending key.
-/

namespace RecordFilter

open Std

theorem OrderKey.compare_swap (key : OrderKey) (v w : Value) : key.compare w v = (key.compare v w).swap := by
  unfold OrderKey.compare
  rw [Value.compare_swap (v.follow key.field)]
  cases key.direction <;> rfl

theorem compareBy_swap (keys : List OrderKey) (v w : Value) : compareBy keys w v = (compareBy keys v w).swap := by
  induction keys with
  | nil => rfl
  | cons key keys ih => rw [compareBy, compareBy, key.compare_swap v, ih, Ordering.swap_then]

variable {α : Type} [HasFields α]

/-- Under no key does a whole number beyond `2 ^ 53` stand beside a double. -/
def ComparesExactly (keys : List OrderKey) (items : List α) : Prop :=
  ∀ key ∈ keys, ∀ a ∈ items, ∀ b ∈ items, ∀ i x, (scope a).follow key.field = .integer i →
    (scope b).follow key.field = .number x → i.toInt.natAbs ≤ 2 ^ 53

theorem OrderKey.transCmp_compare {β : Type} (key : OrderKey) (f : β → Value)
    (exactly : ∀ a b i x, (f a).follow key.field = .integer i → (f b).follow key.field = .number x →
      i.toInt.natAbs ≤ 2 ^ 53) :
    TransCmp fun a b => key.compare (f a) (f b) := by
  have ascending := Value.transCmp_compare (fun a => (f a).follow key.field) exactly
  unfold OrderKey.compare
  cases key.direction with
  | ascending => exact ascending
  | descending =>
    have opposite : TransCmp fun a b => ((f b).follow key.field).compare ((f a).follow key.field) :=
      TransCmp.opposite
    convert opposite using 3
    exact (Value.compare_swap _ _).symm

theorem transCmp_compareBy {β : Type} (keys : List OrderKey) (f : β → Value)
    (exactly : ∀ key ∈ keys, ∀ a b i x, (f a).follow key.field = .integer i → (f b).follow key.field = .number x →
      i.toInt.natAbs ≤ 2 ^ 53) :
    TransCmp fun a b => compareBy keys (f a) (f b) := by
  induction keys with
  | nil => exact { eq_swap := rfl, isLE_trans := fun _ _ => rfl }
  | cons key keys ih =>
    have first := key.transCmp_compare f (exactly key List.mem_cons_self)
    have rest := ih fun key hkey => exactly key (List.mem_cons_of_mem _ hkey)
    exact inferInstanceAs (TransCmp (compareLex (fun a b => key.compare (f a) (f b))
      fun a b => compareBy keys (f a) (f b)))

theorem ComparesExactly.of_subset {keys : List OrderKey} {items records : List α} (h : ComparesExactly keys items)
    (fewer : records ⊆ items) : ComparesExactly keys records :=
  fun key hkey a ha b hb => h key hkey a (fewer ha) b (fewer hb)

theorem transCmp_byKeys {keys : List OrderKey} {items : List α} (exactly : ComparesExactly keys items) :
    TransCmp fun a b : { a // a ∈ items } => byKeys keys a.1 b.1 :=
  transCmp_compareBy keys (fun a : { a // a ∈ items } => scope a.1) fun key hkey a b => exactly key hkey a.1 a.2 b.1 b.2

theorem orderRecords_eq_sortRecords [Sorter] {keys : List OrderKey} {items : List α}
    (exactly : ComparesExactly keys items) : orderRecords keys items = .ok (sortRecords keys items) := by
  have trans := transCmp_byKeys exactly
  have order : IsOrderOf (byKeys keys) items := by
    refine ⟨fun a _ b _ => compareBy_swap keys _ _, fun a ha b hb c hc hab hbc => ?_⟩
    exact trans.isLE_trans (a := ⟨a, ha⟩) (b := ⟨b, hb⟩) (c := ⟨c, hc⟩) hab hbc
  cases keys with
  | nil => exact congrArg Except.ok (List.mergeSort_of_pairwise (List.pairwise_of_forall fun _ _ => rfl)).symm
  | cons key keys =>
    rw [orderRecords, Sorter.eq_mergeSort order]
    rfl

theorem not_comparesExactly_of_orderRecords [Sorter] {keys : List OrderKey} {items : List α} {stop : Stop}
    (h : orderRecords keys items = .error stop) : ¬ ComparesExactly keys items := by
  intro exactly
  cases h.symm.trans (orderRecords_eq_sortRecords exactly)

/-- The records in the order of their keys, with those left in order that no key tells apart. -/
structure IsSorted (keys : List OrderKey) (items sorted : List α) : Prop where
  perm : sorted.Perm items
  ordered : sorted.Pairwise fun a b => byKeys keys a b ≠ .gt
  stable : ∀ a ∈ items, tied (byKeys keys) a sorted = tied (byKeys keys) a items

theorem sortRecords_eq_map (keys : List OrderKey) (items : List α) :
    sortRecords keys items =
      (items.attach.mergeSort fun a b => byKeys keys a.1 b.1 != .gt).map Subtype.val := by
  have sorted := List.map_mergeSort (f := Subtype.val) (l := items.attach)
    (r := fun a b => byKeys keys a.1 b.1 != .gt) (s := fun a b => byKeys keys a b != .gt) fun _ _ _ _ => rfl
  rw [List.attach_map_subtype_val] at sorted
  exact sorted.symm

theorem isSorted_sortRecords {keys : List OrderKey} {items : List α} (exactly : ComparesExactly keys items) :
    IsSorted keys items (sortRecords keys items) := by
  have trans := transCmp_byKeys exactly
  refine ⟨List.mergeSort_perm _ _, ?_, fun a ha => ?_⟩
  · rw [sortRecords_eq_map, List.pairwise_map]
    exact pairwise_mergeSort_cmp (fun a b : { a // a ∈ items } => byKeys keys a.1 b.1) items.attach
  · have kept := tied_mergeSort (fun a b : { a // a ∈ items } => byKeys keys a.1 b.1) ⟨a, ha⟩ items.attach
    have same := congrArg (List.map Subtype.val) kept
    rw [sortRecords_eq_map]
    conv_rhs => rw [← List.attach_map_subtype_val items]
    rw [tied, tied, List.filter_map, List.filter_map]
    exact same

theorem eq_of_isSorted {keys : List OrderKey} {items as bs : List α} (has : IsSorted keys items as)
    (hbs : IsSorted keys items bs) : as = bs := by
  have swap (a b : α) : byKeys keys b a = (byKeys keys a b).swap := compareBy_swap keys _ _
  refine eq_of_tied_eq swap has.ordered hbs.ordered fun a ha => ?_
  have given : a ∈ items := by
    rcases ha with ha | ha
    · exact has.perm.mem_iff.1 ha
    · exact hbs.perm.mem_iff.1 ha
  rw [has.stable a given, hbs.stable a given]

theorem sortRecords_nil (items : List α) : sortRecords [] items = items :=
  List.mergeSort_of_pairwise (List.pairwise_of_forall fun _ _ => rfl)

def isMissing (key : OrderKey) (a : α) : Bool := ((scope a).follow key.field).isNull

/-- Whatever stands before a record without a value under an ascending key, and after one under a descending key, has
no value either. -/
def NullsInPlace (key : OrderKey) (sorted : List α) : Prop :=
  match key.direction with
  | .ascending => sorted.Pairwise fun a b => isMissing key b = true → isMissing key a = true
  | .descending => sorted.Pairwise fun a b => isMissing key a = true → isMissing key b = true

theorem Value.eq_null_of_isNull {v : Value} (h : v.isNull = true) : v = .null := by
  cases v with
  | null => rfl
  | _ => cases h

theorem nullsInPlace_of_ordered {key : OrderKey} {rest : List OrderKey} {sorted : List α}
    (ordered : sorted.Pairwise fun a b => byKeys (key :: rest) a b ≠ .gt) : NullsInPlace key sorted := by
  have first : sorted.Pairwise fun a b => key.compare (scope a) (scope b) ≠ .gt := by
    refine ordered.imp fun h greater => h ?_
    rw [byKeys, compareBy, greater]
    rfl
  unfold NullsInPlace
  cases direction : key.direction with
  | ascending =>
    refine first.imp fun h missing => ?_
    rw [OrderKey.compare, direction, Value.eq_null_of_isNull missing] at h
    exact Value.isNull_of_compare_null h
  | descending =>
    refine first.imp fun h missing => ?_
    rw [OrderKey.compare, direction, ← Value.compare_swap, Value.eq_null_of_isNull missing] at h
    exact Value.isNull_of_compare_null h

/-- However the sort deals with comparisons that are no order, where the keys compare exactly it gives the one list that
is in the order of the keys. -/
theorem sortRecords_sorts [Sorter] {keys : List OrderKey} {items : List α} (exactly : ComparesExactly keys items) :
    orderRecords keys items = .ok (sortRecords keys items) ∧
      (∀ sorted, IsSorted keys items sorted ↔ sorted = sortRecords keys items) ∧
      orderRecords [] items = .ok items ∧ sortRecords [] items = items ∧
      ∀ first rest, keys = first :: rest → NullsInPlace first (sortRecords keys items) := by
  have sorts := isSorted_sortRecords exactly
  refine ⟨orderRecords_eq_sortRecords exactly, fun sorted => ⟨fun h => eq_of_isSorted h sorts, ?_⟩, rfl,
    sortRecords_nil items, ?_⟩
  · rintro rfl
    exact sorts
  · rintro first rest rfl
    exact nullsInPlace_of_ordered sorts.ordered

def byPay : List OrderKey := [⟨["pay", "net"], .descending⟩, ⟨["name"], .ascending⟩]

def worker : Nat → Record
  | 0 => [("name", .text "Bo")]
  | 1 => [("name", .text "Cy"), ("pay", .record [("net", .integer ⟨2, by decide, by decide⟩)])]
  | 2 => [("name", .text "Al"), ("pay", .record [("net", .null)])]
  | 3 => [("name", .text "Ed"), ("pay", .record [("net", .number (.finite true Magnitude.zero))])]
  | _ => [("name", .text "Cy"), ("pay", .record [("net", .integer ⟨2, by decide, by decide⟩)]), ("night", .bool true)]

theorem workers_sorted :
    ComparesExactly byPay ([0, 1, 2, 3, 4].map worker) ∧
      orderRecords byPay ([0, 1, 2, 3, 4].map worker) = .ok ([1, 4, 3, 2, 0].map worker) ∧
      sortRecords byPay ([0, 1, 2, 3, 4].map worker) = [1, 4, 3, 2, 0].map worker ∧
      sortRecords [] ([0, 1, 2, 3, 4].map worker) = [0, 1, 2, 3, 4].map worker ∧
      NullsInPlace ⟨["pay", "net"], .descending⟩ (sortRecords byPay ([0, 1, 2, 3, 4].map worker)) := by
  have exactly : ComparesExactly byPay ([0, 1, 2, 3, 4].map worker) := by
    intro key hkey a ha b hb i x hi hx
    fin_cases hkey <;> fin_cases ha <;> cases hi
    all_goals decide
  obtain ⟨ordered, unique, -, unkeyed, nulls⟩ := sortRecords_sorts exactly
  have sorted : IsSorted byPay ([0, 1, 2, 3, 4].map worker) ([1, 4, 3, 2, 0].map worker) := by
    refine ⟨List.Perm.map worker (by decide), by decide +kernel, fun a ha => ?_⟩
    have ties : ∀ m ∈ [0, 1, 2, 3, 4],
        [1, 4, 3, 2, 0].filter (fun n => byKeys byPay (worker m) (worker n) == .eq) =
          [0, 1, 2, 3, 4].filter fun n => byKeys byPay (worker m) (worker n) == .eq := by decide +kernel
    obtain ⟨m, hm, rfl⟩ := List.mem_map.1 ha
    rw [tied, tied, List.filter_map, List.filter_map]
    exact congrArg (List.map worker) (ties m hm)
  have found := (unique _).1 sorted
  exact ⟨exactly, ordered.trans (congrArg Except.ok found.symm), found.symm, unkeyed, nulls _ _ rfl⟩

end RecordFilter
