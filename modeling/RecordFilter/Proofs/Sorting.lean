import Mathlib.Data.List.Forall2
import Mathlib.Data.List.Nodup
import RecordFilter.Compiler.Group
import RecordFilter.Proofs.StableSort

set_option autoImplicit false

namespace RecordFilter

open Std

variable {α β : Type}

theorem sortByKey_perm (key : α → Int64) (items : List α) : (sortByKey key items).Perm items :=
  List.mergeSort_perm _ _

def compareSort (key : α → Int64) : α → α → Ordering := compareOn fun a => (key a).toInt

instance (key : α → Int64) : TransCmp (compareSort key) :=
  inferInstanceAs (TransCmp (compareOn fun a => (key a).toInt))

theorem compareSort_ne_gt_iff {key : α → Int64} {a b : α} :
    compareSort key a b ≠ .gt ↔ (key a).toInt ≤ (key b).toInt :=
  Int.compare_ne_gt

theorem sortByKey_eq_mergeSort (key : α → Int64) (items : List α) :
    sortByKey key items = items.mergeSort fun a b => compareSort key a b != .gt := by
  unfold sortByKey
  congr 1
  funext a b
  rw [Bool.eq_iff_iff, decide_eq_true_eq, bne_iff_ne]
  exact compareSort_ne_gt_iff.symm

theorem sortByKey_pairwise_le (key : α → Int64) (items : List α) :
    (sortByKey key items).Pairwise fun a b => (key a).toInt ≤ (key b).toInt := by
  rw [sortByKey_eq_mergeSort]
  exact (pairwise_mergeSort_cmp (compareSort key) items).imp compareSort_ne_gt_iff.1

theorem sortByKey_pairwise_lt {key : α → Int64} {items : List α} (unique : HasUniqueSorts key items) :
    (sortByKey key items).Pairwise fun a b => key a < key b := by
  have distinct : (sortByKey key items).Pairwise fun a b => key a ≠ key b :=
    List.pairwise_map.1 (((sortByKey_perm key items).map key).nodup_iff.2 unique)
  refine ((sortByKey_pairwise_le key items).and distinct).imp ?_
  intro a b ⟨hle, hne⟩
  rw [Int64.lt_iff_toInt_lt]
  have hne' : (key a).toInt ≠ (key b).toInt := fun h => hne (Int64.toInt_inj.1 h)
  omega

theorem sortByKey_singleton (key : α → Int64) (a : α) : sortByKey key [a] = [a] :=
  List.mergeSort_singleton a

theorem hasUniqueSorts_singleton (key : α → Int64) (a : α) : HasUniqueSorts key [a] :=
  List.pairwise_singleton _ _

theorem hasUniqueSorts_iff_of_perm {key : α → Int64} {as bs : List α} (h : as.Perm bs) :
    HasUniqueSorts key as ↔ HasUniqueSorts key bs :=
  (h.map key).nodup_iff

theorem hasUniqueSorts_iff_of_forall₂ {key : α → Int64} {as bs : List α}
    (h : List.Forall₂ (fun a b => key a = key b) as bs) : HasUniqueSorts key as ↔ HasUniqueSorts key bs := by
  have same : as.map key = bs.map key := by
    rw [← List.forall₂_eq_eq_eq, List.forall₂_map_left_iff, List.forall₂_map_right_iff]
    exact h
  rw [HasUniqueSorts, HasUniqueSorts, same]

theorem sortByKey_map (key : β → Int64) (f : α → β) (items : List α) :
    sortByKey key (items.map f) = (sortByKey (fun a => key (f a)) items).map f := by
  unfold sortByKey
  rw [List.map_mergeSort]
  intro a _ b _
  rfl

theorem sortByKey_congr {key key' : α → Int64} {items : List α} (h : ∀ a ∈ items, key a = key' a) :
    sortByKey key items = sortByKey key' items := by
  unfold sortByKey
  rw [← List.map_id (items.mergeSort fun a b => decide ((key a).toInt ≤ (key b).toInt)), List.map_mergeSort,
    List.map_id]
  intro a ha b hb
  rw [h a ha, h b hb, id, id]

theorem sortByKey_eq_of_perm {key : α → Int64} {as bs : List α} (h : as.Perm bs) (unique : HasUniqueSorts key as) :
    sortByKey key as = sortByKey key bs := by
  refine List.Perm.eq_of_pairwise ?_ (sortByKey_pairwise_le key as) (sortByKey_pairwise_le key bs)
    ((sortByKey_perm key as).trans (h.trans (sortByKey_perm key bs).symm))
  intro a b ha hb hab hba
  have same : key a = key b := Int64.toInt_inj.1 (Int.le_antisymm hab hba)
  exact List.inj_on_of_nodup_map unique ((sortByKey_perm key as).mem_iff.1 ha)
    (h.mem_iff.2 ((sortByKey_perm key bs).mem_iff.1 hb)) same

/-- Lists that are related member by member are so after sorting, if related members have the same sort value. -/
theorem sortByKey_forall₂ {R : α → β → Prop} {key : α → Int64} {key' : β → Int64}
    (same : ∀ a b, R a b → key a = key' b) {as : List α} {bs : List β} (h : List.Forall₂ R as bs) :
    List.Forall₂ R (sortByKey key as) (sortByKey key' bs) := by
  obtain ⟨pairs, related, rfl, rfl⟩ : ∃ pairs : List (α × β), (∀ x ∈ pairs, R x.1 x.2) ∧ pairs.map Prod.fst = as ∧
      pairs.map Prod.snd = bs := by
    induction h with
    | nil => exact ⟨[], by simp, rfl, rfl⟩
    | @cons a b as bs hab _ ih =>
      obtain ⟨pairs, related, rfl, rfl⟩ := ih
      exact ⟨(a, b) :: pairs, List.forall_mem_cons.2 ⟨hab, related⟩, rfl, rfl⟩
  rw [sortByKey_map, sortByKey_map, ← sortByKey_congr fun x hx => same x.1 x.2 (related x hx),
    List.forall₂_map_left_iff, List.forall₂_map_right_iff, List.forall₂_same]
  exact fun x hx => related x ((sortByKey_perm _ pairs).mem_iff.1 hx)

def withSort (key : α → Int64) (sort : Int64) (items : List α) : List α := items.filter fun a => key a = sort

theorem tied_compareSort (key : α → Int64) (a : α) (items : List α) :
    tied (compareSort key) a items = withSort key (key a) items := by
  refine List.filter_congr fun b _ => ?_
  rw [Bool.eq_iff_iff, beq_iff_eq, decide_eq_true_eq, compareSort, compareOn, Int.compare_eq_eq, Int64.toInt_inj]
  exact eq_comm

theorem withSort_sortByKey (key : α → Int64) (sort : Int64) (items : List α) :
    withSort key sort (sortByKey key items) = withSort key sort items := by
  by_cases present : ∃ a ∈ items, key a = sort
  · obtain ⟨a, -, rfl⟩ := present
    rw [← tied_compareSort, ← tied_compareSort, sortByKey_eq_mergeSort, tied_mergeSort]
  · have none : ∀ as : List α, as.Perm items → withSort key sort as = [] := by
      intro as same
      exact List.filter_eq_nil_iff.2 fun a ha here => present ⟨a, same.mem_iff.1 ha, of_decide_eq_true here⟩
    rw [none _ (sortByKey_perm key items), none _ (List.Perm.refl items)]

theorem eq_of_withSort_eq {key : α → Int64} {as bs : List α}
    (has : as.Pairwise fun a b => (key a).toInt ≤ (key b).toInt)
    (hbs : bs.Pairwise fun a b => (key a).toInt ≤ (key b).toInt)
    (h : ∀ sort, withSort key sort as = withSort key sort bs) : as = bs := by
  refine eq_of_tied_eq (fun a b => OrientedCmp.eq_swap) (has.imp compareSort_ne_gt_iff.2)
    (hbs.imp compareSort_ne_gt_iff.2) fun a _ => ?_
  rw [tied_compareSort, tied_compareSort, h]

/-- How members are put in order depends on nothing but the order of those that share a sort value. -/
theorem sortByKey_eq_of_withSort_eq {key : α → Int64} {as bs : List α}
    (h : ∀ sort, withSort key sort as = withSort key sort bs) : sortByKey key as = sortByKey key bs := by
  refine eq_of_withSort_eq (sortByKey_pairwise_le key as) (sortByKey_pairwise_le key bs) fun sort => ?_
  rw [withSort_sortByKey, withSort_sortByKey, h]

end RecordFilter
