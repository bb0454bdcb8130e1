import Mathlib
import RecordFilter.Proofs.Number.Rounding
import RecordFilter.Proofs.StableSort
import RecordFilter.Value.Order

set_option autoImplicit false

namespace RecordFilter

open Std

instance : TransCmp Date.compare :=
  inferInstanceAs (TransCmp (compareLex (compareOn Date.year) (compareLex (compareOn Date.month) (compareOn Date.day))))

instance : TransCmp Time.compare :=
  inferInstanceAs (TransCmp (compareLex (compareOn Time.hour) (compareLex (compareOn Time.minute)
    (compareLex (compareOn Time.second) (compareOn Time.nanosecond)))))

instance : TransCmp DateTime.compare :=
  have := transCmp_on Date.compare DateTime.date
  have := transCmp_on Time.compare DateTime.time
  inferInstanceAs (TransCmp (compareLex (fun a b : DateTime => a.date.compare b.date) fun a b => a.time.compare b.time))

instance : TransCmp Guid.compare :=
  have : TransCmp fun x y : Fin 16 => compare x.val y.val := inferInstanceAs (TransCmp (compareOn Fin.val))
  transCmp_on (List.compareLex fun x y : Fin 16 => compare x.val y.val) Guid.digits

theorem Guid.compare_self (g : Guid) : g.compare g = .eq := ReflCmp.compare_self

theorem Date.compare_self (d : Date) : d.compare d = .eq := ReflCmp.compare_self

theorem DateTime.compare_self (t : DateTime) : t.compare t = .eq := ReflCmp.compare_self

theorem Date.midnight_compare (d e : Date) : d.midnight.compare e.midnight = d.compare e := by
  have times : Time.midnight.compare .midnight = .eq := ReflCmp.compare_self
  change (d.compare e).then (Time.midnight.compare .midnight) = d.compare e
  rw [times, Ordering.then_eq]

namespace Value

def truth : Value → Bool
  | bool b => b
  | _ => false

def place : Value → Int
  | integer i => (Double.ofInt i.toInt).rank
  | number x => x.rank
  | _ => 0

def letters : Value → String
  | text s => s
  | _ => ""

def identity : Value → Guid
  | guid g => g
  | _ => ⟨List.replicate 32 ⟨0, by decide⟩, List.length_replicate⟩

def moment : Value → DateTime
  | date d => d.midnight
  | dateTime t => t
  | _ => ⟨⟨0, 1, 1, by decide, by decide, by decide, by decide, by decide, by decide⟩, .midnight⟩

/-- The order in which every whole number stands where its nearest double does. The first column in which two values
differ decides, and a value has nothing to say in the columns of other kinds. -/
def compareRounded : Value → Value → Ordering :=
  compareLex (compareOn kindRank) (compareLex (compareOn truth) (compareLex (compareOn place)
    (compareLex (compareOn letters) (compareLex (fun v w => v.identity.compare w.identity)
      fun v w => v.moment.compare w.moment))))

instance : TransCmp compareRounded :=
  have := transCmp_on Guid.compare identity
  have := transCmp_on DateTime.compare moment
  inferInstanceAs (TransCmp (compareLex (compareOn kindRank) (compareLex (compareOn truth)
    (compareLex (compareOn place) (compareLex (compareOn letters)
      (compareLex (fun v w => v.identity.compare w.identity) fun v w => v.moment.compare w.moment))))))

def BothWhole (v w : Value) : Prop := ∃ i j, v = integer i ∧ w = integer j

theorem compare_of_kindRank_ne {v w : Value} (h : v.kindRank ≠ w.kindRank) :
    v.compare w = Ord.compare v.kindRank w.kindRank := by
  cases v <;> cases w <;> first | exact absurd rfl h | rfl

theorem compareRounded_of_kindRank_ne {v w : Value} (h : v.kindRank ≠ w.kindRank) :
    compareRounded v w = Ord.compare v.kindRank w.kindRank := by
  have apart : Ord.compare v.kindRank w.kindRank ≠ .eq := fun same => h (Nat.compare_eq_eq.1 same)
  change (Ord.compare v.kindRank w.kindRank).then _ = _
  cases first : Ord.compare v.kindRank w.kindRank with
  | lt | gt => rfl
  | eq => exact absurd first apart

theorem compareRounded_of_kindRank_eq {v w : Value} (h : v.kindRank = w.kindRank) :
    compareRounded v w = (Ord.compare v.truth w.truth).then ((Ord.compare v.place w.place).then
      ((Ord.compare v.letters w.letters).then ((v.identity.compare w.identity).then
        (v.moment.compare w.moment)))) := by
  change (Ord.compare v.kindRank w.kindRank).then _ = _
  rw [h, ReflOrd.compare_self]
  rfl

theorem eq_of_kindRank_eq_two {v : Value} (h : v.kindRank = 2) : (∃ i, v = integer i) ∨ ∃ x, v = number x := by
  cases v with
  | integer i => exact Or.inl ⟨i, rfl⟩
  | number x => exact Or.inr ⟨x, rfl⟩
  | _ => cases h

theorem compareRounded_of_numbers {v w : Value} (hv : v.kindRank = 2) (hw : w.kindRank = 2) :
    compareRounded v w = Ord.compare v.place w.place := by
  have others {u : Value} (hu : u.kindRank = 2) :
      u.truth = null.truth ∧ u.letters = null.letters ∧ u.identity = null.identity ∧ u.moment = null.moment := by
    rcases eq_of_kindRank_eq_two hu with ⟨i, rfl⟩ | ⟨x, rfl⟩ <;> exact ⟨rfl, rfl, rfl, rfl⟩
  obtain ⟨truth, letters, identity, moment⟩ := others hv
  obtain ⟨truth', letters', identity', moment'⟩ := others hw
  rw [compareRounded_of_kindRank_eq (hv.trans hw.symm), truth, truth', letters, letters', identity, identity', moment,
    moment', Guid.compare_self, DateTime.compare_self]
  simp only [ReflOrd.compare_self, Ordering.eq_then, Ordering.then_eq]

/-- Two values of one kind differ in the one column of that kind. -/
theorem compare_eq_compareRounded {v w : Value} (h : ¬ BothWhole v w) : v.compare w = compareRounded v w := by
  by_cases kinds : v.kindRank = w.kindRank
  · cases v with
    | integer i =>
      cases w with
      | integer j => exact absurd ⟨i, j, rfl, rfl⟩ h
      | number y =>
        rw [compareRounded_of_numbers rfl rfl, compare]
        rfl
      | _ => cases kinds
    | number x =>
      cases w with
      | integer j =>
        rw [compareRounded_of_numbers rfl rfl, compare]
        rfl
      | number y =>
        rw [compareRounded_of_numbers rfl rfl, compare]
        rfl
      | _ => cases kinds
    | _ =>
      rw [compareRounded_of_kindRank_eq kinds]
      cases w <;> first
        | (cases kinds; done)
        | simp only [compare, kindRank, truth, place, letters, identity, moment, Guid.compare_self,
            DateTime.compare_self, Date.midnight_compare, ReflOrd.compare_self, Ordering.then_eq, Ordering.eq_then]
  · rw [compare_of_kindRank_ne kinds, compareRounded_of_kindRank_ne kinds]

theorem rank_ofInt_le {i j : Whole} (h : i.toInt ≤ j.toInt) :
    (Double.ofInt i.toInt).rank ≤ (Double.ofInt j.toInt).rank := by
  have hi := i.lower
  have hi' := i.upper
  have hj := j.lower
  have hj' := j.upper
  exact Double.rank_ofInt_mono (by omega) (by omega) h

theorem isLE_compareRounded {v w : Value} (h : (v.compare w).isLE = true) : (compareRounded v w).isLE = true := by
  by_cases both : BothWhole v w
  · obtain ⟨i, j, rfl, rfl⟩ := both
    rw [compareRounded_of_numbers rfl rfl, Int.isLE_compare, place, place]
    exact rank_ofInt_le (Int.isLE_compare.1 h)
  · rwa [← compare_eq_compareRounded both]

theorem compare_swap (v w : Value) : w.compare v = (v.compare w).swap := by
  by_cases both : BothWhole v w
  · obtain ⟨i, j, rfl, rfl⟩ := both
    exact Int.compare_swap _ _ |>.symm
  · have both' : ¬ BothWhole w v := fun ⟨i, j, hw, hv⟩ => both ⟨j, i, hv, hw⟩
    rw [compare_eq_compareRounded both, compare_eq_compareRounded both']
    exact OrientedCmp.eq_swap

/-- Two whole numbers, the greater one first, with a double between them to which both are rounded. -/
def Blurs (a b c : Value) : Prop :=
  ∃ i j : Whole, j.toInt < i.toInt ∧ Double.ofInt j.toInt = Double.ofInt i.toInt ∧
    a = integer i ∧ b = number (Double.ofInt i.toInt) ∧ c = integer j

theorem blurs_of_compare {a b c : Value} (hab : a.compare b ≠ .gt) (hbc : b.compare c ≠ .gt)
    (hac : a.compare c = .gt) : Blurs a b c := by
  by_cases both : BothWhole a c
  · obtain ⟨i, j, rfl, rfl⟩ := both
    have less : j.toInt < i.toInt := Int.compare_eq_gt.1 hac
    cases b with
    | number x =>
      have lower : (Double.ofInt i.toInt).rank ≤ x.rank := Int.compare_ne_gt.1 hab
      have upper : x.rank ≤ (Double.ofInt j.toInt).rank := Int.compare_ne_gt.1 hbc
      have rounded := rank_ofInt_le (Int.le_of_lt less)
      have first : x = Double.ofInt i.toInt := Double.rank_injective (by omega)
      have second : Double.ofInt j.toInt = Double.ofInt i.toInt := Double.rank_injective (by omega)
      exact ⟨i, j, less, second, rfl, congrArg number first, rfl⟩
    | integer m =>
      have lower : i.toInt ≤ m.toInt := Int.compare_ne_gt.1 hab
      have upper : m.toInt ≤ j.toInt := Int.compare_ne_gt.1 hbc
      omega
    | null | bool => exact absurd rfl hab
    | _ => exact absurd rfl hbc
  · have first := isLE_compareRounded (Ordering.isLE_iff_ne_gt.2 hab)
    have second := isLE_compareRounded (Ordering.isLE_iff_ne_gt.2 hbc)
    have ends : (compareRounded a c).isLE = true := TransCmp.isLE_trans first second
    rw [← compare_eq_compareRounded both, hac] at ends
    cases ends

/-- Comparing is reflexive and the same from both sides, and it is transitive but for whole numbers that a double
between them blurs. -/
theorem compare_preorder_but_blurred (a b c : Value) :
    a.compare a = .eq ∧ b.compare a = (a.compare b).swap ∧
      (a.compare b ≠ .gt ∧ b.compare c ≠ .gt ∧ a.compare c = .gt ↔ Blurs a b c) := by
  refine ⟨cmp_self_of_swap compare_swap a, compare_swap a b, fun ⟨hab, hbc, hac⟩ => blurs_of_compare hab hbc hac, ?_⟩
  rintro ⟨i, j, less, same, rfl, rfl, rfl⟩
  have hij : Double.totalCompare (Double.ofInt i.toInt) (Double.ofInt i.toInt) = .eq :=
    Int.compare_eq_eq.2 rfl
  refine ⟨?_, ?_, Int.compare_eq_gt.2 less⟩
  · rw [compare, hij]
    decide
  · rw [compare, same, hij]
    decide

/-- The whole numbers `2 ^ 53 + 1` and `2 ^ 53`, with the double `2 ^ 53` between them. -/
theorem compare_past_exact :
    (integer ⟨2 ^ 53 + 1, by decide, by decide⟩).compare
        (number (.finite false ⟨2 ^ 52, 1075, by decide, by decide, Or.inr (Nat.le_refl _)⟩)) = .eq ∧
      (number (.finite false ⟨2 ^ 52, 1075, by decide, by decide, Or.inr (Nat.le_refl _)⟩)).compare
        (integer ⟨2 ^ 53, by decide, by decide⟩) = .eq ∧
      (integer ⟨2 ^ 53 + 1, by decide, by decide⟩).compare (integer ⟨2 ^ 53, by decide, by decide⟩) = .gt := by
  decide +kernel

/-- Whole numbers of up to fifty-three bits are not blurred. -/
theorem Blurs.exists_large {a b c : Value} (h : Blurs a b c) :
    ∃ i x, (a = integer i ∨ c = integer i) ∧ b = number x ∧ 2 ^ 53 < i.toInt.natAbs := by
  obtain ⟨i, j, less, same, rfl, rfl, rfl⟩ := h
  by_cases hi : i.toInt.natAbs ≤ 2 ^ 53
  · by_cases hj : j.toInt.natAbs ≤ 2 ^ 53
    · have equal := Double.eq_of_ofInt_eq hj hi same
      omega
    · exact ⟨j, _, Or.inr rfl, rfl, Nat.lt_of_not_le hj⟩
  · exact ⟨i, _, Or.inl rfl, rfl, Nat.lt_of_not_le hi⟩

/-- Values are in a total preorder if no doubles are among them beside whole numbers that they could blur. -/
theorem transCmp_compare {α : Type} (f : α → Value)
    (exactly : ∀ a b i x, f a = integer i → f b = number x → i.toInt.natAbs ≤ 2 ^ 53) :
    TransCmp fun a b => (f a).compare (f b) where
  eq_swap := compare_swap _ _
  isLE_trans := by
    intro a b c hab hbc
    rw [Ordering.isLE_iff_ne_gt] at hab hbc ⊢
    intro hac
    obtain ⟨i, x, whole, hx, large⟩ := (blurs_of_compare hab hbc hac).exists_large
    have small : i.toInt.natAbs ≤ 2 ^ 53 := by
      rcases whole with ha | hc
      · exact exactly a b i x ha hx
      · exact exactly c b i x hc hx
    omega

theorem isNull_of_compare_null {v : Value} (h : v.compare null ≠ .gt) : v.isNull = true := by
  cases v with
  | null => rfl
  | _ => exact absurd rfl h

end Value

end RecordFilter
