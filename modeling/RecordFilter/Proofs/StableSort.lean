import Mathlib.Data.List.Forall2

set_option autoImplicit false

namespace RecordFilter

open Std

variable {α β : Type}

theorem transCmp_on (cmp : β → β → Ordering) [TransCmp cmp] (f : α → β) : TransCmp fun a b => cmp (f a) (f b) where
  eq_swap := OrientedCmp.eq_swap
  isLE_trans := TransCmp.isLE_trans

/-- The members that the comparison does not tell apart from `a`, in their order. -/
def tied (cmp : α → α → Ordering) (a : α) (items : List α) : List α := items.filter fun b => cmp a b == .eq

theorem mem_tied {cmp : α → α → Ordering} {a b : α} {items : List α} :
    b ∈ tied cmp a items ↔ b ∈ items ∧ cmp a b = .eq := by
  rw [tied, List.mem_filter, beq_iff_eq]

theorem tied_tied (cmp : α → α → Ordering) (a : α) (items : List α) :
    tied cmp a (tied cmp a items) = tied cmp a items := by
  simp only [tied, List.filter_filter, Bool.and_self]

theorem tied_cons_of_eq {cmp : α → α → Ordering} {a b : α} (h : cmp a b = .eq) (items : List α) :
    tied cmp a (b :: items) = b :: tied cmp a items :=
  List.filter_cons_of_pos (by simp [h])

theorem tied_cons_of_ne {cmp : α → α → Ordering} {a b : α} (h : cmp a b ≠ .eq) (items : List α) :
    tied cmp a (b :: items) = tied cmp a items :=
  List.filter_cons_of_neg (by simp [h])

section Sorted

variable (cmp : α → α → Ordering) [TransCmp cmp]

theorem bne_gt_trans (a b c : α) (hab : (cmp a b != .gt) = true) (hbc : (cmp b c != .gt) = true) :
    (cmp a c != .gt) = true := by
  rw [bne_iff_ne, ne_eq, Ordering.ne_gt_iff_isLE] at *
  exact TransCmp.isLE_trans hab hbc

theorem bne_gt_total (a b : α) : ((cmp a b != .gt) || (cmp b a != .gt)) = true := by
  have swapped : cmp b a = (cmp a b).swap := OrientedCmp.eq_swap
  rw [swapped]
  cases cmp a b <;> rfl

theorem pairwise_mergeSort_cmp (items : List α) :
    (items.mergeSort fun a b => cmp a b != .gt).Pairwise fun a b => cmp a b ≠ .gt := by
  have sorted := List.pairwise_mergeSort (bne_gt_trans cmp) (bne_gt_total cmp) items
  exact sorted.imp fun h => bne_iff_ne.1 h

theorem tied_mergeSort (a : α) (items : List α) :
    tied cmp a (items.mergeSort fun a b => cmp a b != .gt) = tied cmp a items := by
  have level : (tied cmp a items).Pairwise fun b c => (cmp b c != .gt) = true := by
    refine List.pairwise_filter.2 (List.pairwise_of_forall fun b c hb hc => ?_)
    have same : cmp b c = .eq := TransCmp.eq_trans (OrientedCmp.eq_symm (beq_iff_eq.1 hb)) (beq_iff_eq.1 hc)
    rw [same]
    rfl
  have kept := List.sublist_mergeSort (bne_gt_trans cmp) (bne_gt_total cmp) level List.filter_sublist
  have inside := kept.filter fun b => cmp a b == .eq
  change (tied cmp a (tied cmp a items)).Sublist _ at inside
  rw [tied_tied] at inside
  exact (inside.eq_of_length ((List.mergeSort_perm items _).filter _).length_eq.symm).symm

end Sorted

section Unique

variable {cmp : α → α → Ordering}

theorem cmp_self_of_swap (swap : ∀ a b, cmp b a = (cmp a b).swap) (a : α) : cmp a a = .eq := by
  have swapped := swap a a
  cases same : cmp a a with
  | eq => rfl
  | lt | gt =>
    rw [same] at swapped
    cases swapped

theorem cmp_eq_of_ne_gt (swap : ∀ a b, cmp b a = (cmp a b).swap) {a b : α} (hab : cmp a b ≠ .gt)
    (hba : cmp b a ≠ .gt) : cmp a b = .eq := by
  rw [swap a b] at hba
  cases same : cmp a b with
  | eq => rfl
  | lt =>
    rw [same] at hba
    exact absurd rfl hba
  | gt => exact absurd same hab

theorem mem_iff_of_tied_eq (self : ∀ a, cmp a a = .eq) {as bs : List α}
    (h : ∀ a, a ∈ as ∨ a ∈ bs → tied cmp a as = tied cmp a bs) (a : α) : a ∈ as ↔ a ∈ bs := by
  constructor
  · intro ha
    exact (mem_tied.1 (h a (Or.inl ha) ▸ mem_tied.2 ⟨ha, self a⟩)).1
  · intro hb
    exact (mem_tied.1 ((h a (Or.inr hb)).symm ▸ mem_tied.2 ⟨hb, self a⟩)).1

theorem ne_gt_of_mem_cons (self : ∀ a, cmp a a = .eq) {a : α} {as : List α}
    (h : (a :: as).Pairwise fun a b => cmp a b ≠ .gt) {x : α} (hx : x ∈ a :: as) : cmp a x ≠ .gt := by
  rcases List.mem_cons.1 hx with rfl | hx
  · rw [self]
    decide
  · exact (List.pairwise_cons.1 h).1 x hx

/-- Lists in order are equal if the same members are tied in them, in the same order. -/
theorem eq_of_tied_eq (swap : ∀ a b, cmp b a = (cmp a b).swap) {as bs : List α}
    (has : as.Pairwise fun a b => cmp a b ≠ .gt) (hbs : bs.Pairwise fun a b => cmp a b ≠ .gt)
    (h : ∀ a, a ∈ as ∨ a ∈ bs → tied cmp a as = tied cmp a bs) : as = bs := by
  have self := cmp_self_of_swap swap
  induction as generalizing bs with
  | nil =>
    symm
    rw [List.eq_nil_iff_forall_not_mem]
    intro b hb
    cases (mem_iff_of_tied_eq self h b).2 hb
  | cons a as ih =>
    have members := mem_iff_of_tied_eq self h
    cases bs with
    | nil => cases (members a).1 List.mem_cons_self
    | cons b bs =>
      have hab : cmp a b ≠ .gt := ne_gt_of_mem_cons self has ((members b).2 List.mem_cons_self)
      have hba : cmp b a ≠ .gt := ne_gt_of_mem_cons self hbs ((members a).1 List.mem_cons_self)
      have firsts := h a (Or.inl List.mem_cons_self)
      rw [tied_cons_of_eq (self a), tied_cons_of_eq (cmp_eq_of_ne_gt swap hab hba)] at firsts
      obtain rfl : a = b := (List.cons.inj firsts).1
      have rest (x : α) (hx : x ∈ as ∨ x ∈ bs) : tied cmp x as = tied cmp x bs := by
        have both := h x (hx.imp (List.mem_cons_of_mem a) (List.mem_cons_of_mem a))
        by_cases here : cmp x a = .eq
        · rw [tied_cons_of_eq here, tied_cons_of_eq here] at both
          exact (List.cons.inj both).2
        · rwa [tied_cons_of_ne here, tied_cons_of_ne here] at both
      rw [ih (List.pairwise_cons.1 has).2 (List.pairwise_cons.1 hbs).2 rest]

end Unique

end RecordFilter
