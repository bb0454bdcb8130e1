set_option autoImplicit false

namespace RecordFilter

/-- The comparison puts the items in order, though it may leave some of them level. -/
structure IsOrderOf {α : Type} (cmp : α → α → Ordering) (items : List α) : Prop where
  swap : ∀ a ∈ items, ∀ b ∈ items, cmp b a = (cmp a b).swap
  trans : ∀ a ∈ items, ∀ b ∈ items, ∀ c ∈ items,
    (cmp a b).isLE = true → (cmp b c).isLE = true → (cmp a c).isLE = true

/-- A stable sort. Where the comparison is no order of the items, the sort may panic, and if it does not, nothing is
promised of the order in which they come. -/
class Sorter where
  sort? {α : Type} : (α → α → Ordering) → List α → Option (List α)
  perm {α : Type} {cmp : α → α → Ordering} {items sorted : List α} :
    sort? cmp items = some sorted → sorted.Perm items
  eq_mergeSort {α : Type} {cmp : α → α → Ordering} {items : List α} :
    IsOrderOf cmp items → sort? cmp items = some (items.mergeSort fun a b => cmp a b != .gt)

instance Sorter.merge : Sorter where
  sort? cmp items := some (items.mergeSort fun a b => cmp a b != .gt)
  perm sorted := by
    cases sorted
    exact List.mergeSort_perm _ _
  eq_mergeSort _ := rfl

end RecordFilter
