import Mathlib
import RecordFilter.Proofs.Number.Rounding

set_option autoImplicit false

/-!
# Doubles as real numbers

The extended real number that a double stands for. Doubles are compared as these numbers are, and a double gives a whole
number if it stands for just that number.
-/

namespace RecordFilter

noncomputable def Whole.real (w : Whole) : EReal := ((w.toInt : ℝ) : EReal)

noncomputable def Magnitude.real (m : Magnitude) : ℝ := m.significand * (2 : ℝ) ^ ((m.scale : ℤ) - 1074)

namespace Double

noncomputable def real? : Double → Option EReal
  | finite negative size => some ((if negative then -size.real else size.real : ℝ) : EReal)
  | infinite negative => some (if negative then ⊥ else ⊤)
  | nan _ _ => none

theorem one_pos : 0 < one := by
  obtain ⟨e, -, unit⟩ := exists_one_eq
  rw [unit]
  exact Nat.two_pow_pos e

theorem beyond_pos : 0 < beyond := by
  obtain ⟨e, -, top⟩ := Magnitude.exists_beyond_eq
  rw [top]
  exact Nat.two_pow_pos e

noncomputable def ofPlace (a : Int) : EReal :=
  if a = beyond then ⊤ else if a = -beyond then ⊥ else ((a / one : ℝ) : EReal)

theorem ofPlace_of_lt {a : Int} (h : a.natAbs < beyond) : ofPlace a = ((a / one : ℝ) : EReal) := by
  rw [ofPlace, if_neg (by omega), if_neg (by omega)]

theorem ofPlace_beyond : ofPlace beyond = ⊤ := if_pos rfl

theorem ofPlace_neg_beyond : ofPlace (-beyond) = ⊥ := by
  have positive : (0 : Int) < beyond := Int.natCast_pos.2 beyond_pos
  rw [ofPlace, if_neg (neg_lt_self positive).ne, if_pos rfl]

theorem strictMonoOn_ofPlace : StrictMonoOn ofPlace {a | a.natAbs ≤ beyond} := by
  intro a ha b hb less
  change a.natAbs ≤ beyond at ha
  change b.natAbs ≤ beyond at hb
  have lowest : a = -beyond ∨ a.natAbs < beyond := by omega
  have highest : b = beyond ∨ b.natAbs < beyond := by omega
  rcases lowest with lowest | inside <;> rcases highest with highest | inside'
  · rw [lowest, highest, ofPlace_beyond, ofPlace_neg_beyond]
    exact bot_lt_top
  · rw [lowest, ofPlace_neg_beyond, ofPlace_of_lt inside']
    exact EReal.bot_lt_coe _
  · rw [highest, ofPlace_beyond, ofPlace_of_lt inside]
    exact EReal.coe_lt_top _
  · rw [ofPlace_of_lt inside, ofPlace_of_lt inside', EReal.coe_lt_coe_iff]
    have positive : (0 : ℝ) < one := Nat.cast_pos.2 one_pos
    exact div_lt_div_of_pos_right (Int.cast_lt.2 less) positive

theorem natAbs_signed (negative : Bool) (n : Nat) : (signed negative n).natAbs = n := by
  cases negative <;> simp [signed]

theorem signed_mul (negative : Bool) (n k : Nat) : signed negative (n * k) = signed negative n * k := by
  cases negative <;> simp [signed]

theorem natAbs_le_of_units? {x : Double} {a : Int} (h : x.units? = some a) : a.natAbs ≤ beyond := by
  cases x with
  | finite negative m =>
    cases h
    rw [natAbs_signed]
    exact m.units_lt.le
  | infinite negative =>
    cases h
    rw [natAbs_signed]
  | nan => cases h

end Double

theorem Magnitude.real_eq (m : Magnitude) : m.real = m.units / Double.one := by
  obtain ⟨e, he, unit⟩ := Double.exists_one_eq
  have size : (m.units : ℝ) = m.significand * 2 ^ m.scale := by
    change ((m.significand * 2 ^ m.scale : ℕ) : ℝ) = _
    rw [Nat.cast_mul, Nat.cast_pow, Nat.cast_ofNat]
  have shift : (m.scale : ℤ) - 1074 = m.scale - e := by
    rw [he]
    rfl
  rw [Magnitude.real, unit, size, shift, zpow_sub₀ two_ne_zero, zpow_natCast, zpow_natCast, Nat.cast_pow, Nat.cast_ofNat,
    mul_div_assoc]

namespace Double

theorem real?_eq (x : Double) : x.real? = x.units?.map ofPlace := by
  cases x with
  | finite negative m =>
    have inside : (signed negative m.units).natAbs < beyond := by
      rw [natAbs_signed]
      exact m.units_lt
    rw [units?, Option.map_some, ofPlace_of_lt inside, real?, m.real_eq]
    cases negative with
    | false => rw [signed, if_neg (by decide), if_neg (by decide), Int.cast_natCast]
    | true => rw [signed, if_pos rfl, if_pos rfl, Int.cast_neg, Int.cast_natCast, neg_div]
  | infinite negative =>
    rw [units?, Option.map_some, real?]
    cases negative with
    | false => exact congrArg some ofPlace_beyond.symm
    | true => exact congrArg some ofPlace_neg_beyond.symm
  | nan => rfl

/-- Doubles are in the order of the numbers that they stand for. -/
theorem compare?_eq (x y : Double) : x.compare? y = x.real?.bind fun r => y.real?.map fun s => compare r s := by
  rw [real?_eq, real?_eq, compare?]
  cases hx : x.units? with
  | none => rfl
  | some a =>
    cases hy : y.units? with
    | none => rfl
    | some b =>
      have order := strictMonoOn_ofPlace.cmp_map_eq (natAbs_le_of_units? hx) (natAbs_le_of_units? hy)
      rw [cmp_eq_compare, cmp_eq_compare] at order
      exact congrArg some order.symm

theorem mul_one_lt_beyond {n : Nat} (h : n ≤ 2 ^ 127) : n * one < beyond := by
  obtain ⟨e, he, unit⟩ := exists_one_eq
  obtain ⟨f, hf, top⟩ := Magnitude.exists_beyond_eq
  calc n * one ≤ 2 ^ 127 * one := Nat.mul_le_mul_right _ h
    _ = 2 ^ (127 + e) := by rw [unit, Nat.pow_add]
    _ < 2 ^ f := Nat.pow_lt_pow_right (by decide) (by omega)
    _ = beyond := top.symm

theorem natAbs_mul_one_lt {k : Int} (h : k.natAbs ≤ 2 ^ 127) : (k * one).natAbs < beyond := by
  rw [Int.natAbs_mul, Int.natAbs_natCast]
  exact mul_one_lt_beyond h

theorem ofPlace_mul_one {k : Int} (h : k.natAbs ≤ 2 ^ 127) : ofPlace (k * one) = ((k : ℝ) : EReal) := by
  have nonzero : (one : ℝ) ≠ 0 := Nat.cast_ne_zero.2 one_pos.ne'
  rw [ofPlace_of_lt (natAbs_mul_one_lt h), Int.cast_mul, Int.cast_natCast, mul_div_cancel_right₀ _ nonzero]

end Double

namespace Whole

theorem natAbs_le (w : Whole) : w.toInt.natAbs ≤ 2 ^ 127 := by
  have lower := w.lower
  have upper := w.upper
  omega

theorem natAbs_place_lt (w : Whole) : (w.toInt * Double.one).natAbs < Double.beyond :=
  Double.natAbs_mul_one_lt w.natAbs_le

theorem real_eq_ofPlace (w : Whole) : w.real = Double.ofPlace (w.toInt * Double.one) :=
  (Double.ofPlace_mul_one w.natAbs_le).symm

theorem real_injective : Function.Injective real := by
  intro w w' h
  have same : w.toInt = w'.toInt := Int.cast_injective (EReal.coe_injective h)
  cases w
  cases w'
  cases same
  rfl

theorem real_lt_two_pow (w : Whole) : w.real < ((2 ^ 127 : ℝ) : EReal) := by
  rw [real, EReal.coe_lt_coe_iff]
  exact_mod_cast w.upper

theorem compare_real (w i : Whole) : compare w.real i.real = compare w.toInt i.toInt := by
  have order := (EReal.coe_strictMono.comp Int.cast_strictMono).cmp_map_eq w.toInt i.toInt
  rw [cmp_eq_compare, cmp_eq_compare] at order
  exact order

end Whole

namespace Double

/-- A double gives the whole number that it stands for, if it stands for one. -/
theorem toWhole?_eq_some_iff {x : Double} {w : Whole} : x.toWhole? = some w ↔ x.real? = some w.real := by
  rw [real?_eq, w.real_eq_ofPlace]
  cases x with
  | finite negative m =>
    have place : (signed negative m.units).natAbs ≤ beyond := natAbs_le_of_units? (x := finite negative m) rfl
    rw [units?, Option.map_some, Option.some_inj, strictMonoOn_ofPlace.injOn.eq_iff place w.natAbs_place_lt.le, toWhole?]
    constructor
    · intro h
      split at h
      · rename_i whole
        rw [Whole.ofInt?_eq_some_iff.1 h, ← signed_mul, Nat.div_mul_cancel (Nat.dvd_of_mod_eq_zero whole)]
      · cases h
    · intro h
      have size : m.units = w.toInt.natAbs * one := by
        have sizes := congrArg Int.natAbs h
        rwa [natAbs_signed, Int.natAbs_mul, Int.natAbs_natCast] at sizes
      rw [size, Nat.mul_mod_left, if_pos rfl, Nat.mul_div_cancel _ one_pos, Whole.ofInt?_eq_some_iff]
      rw [size, signed_mul] at h
      exact (Int.eq_of_mul_eq_mul_right (Int.natCast_ne_zero.2 one_pos.ne') h).symm
  | infinite negative =>
    have place : (signed negative beyond).natAbs ≤ beyond := natAbs_le_of_units? (x := infinite negative) rfl
    rw [units?, Option.map_some, Option.some_inj, strictMonoOn_ofPlace.injOn.eq_iff place w.natAbs_place_lt.le]
    constructor
    · intro h
      cases h
    · intro h
      have below := w.natAbs_place_lt
      rw [← h, natAbs_signed] at below
      exact absurd below (lt_irrefl _)
  | nan => exact iff_of_false nofun nofun

theorem signedApart_eq {negative : Bool} {n : Nat} (h : signed negative n ≠ 0) :
    signedApart negative n = if signed negative n < 0 then signed negative n - 1 else signed negative n := by
  cases negative with
  | false => simp [signedApart, signed]
  | true =>
    simp [signed] at h
    simp [signedApart, signed]
    omega

theorem rank_of_units? {x : Double} {a : Int} (h : x.units? = some a) (nonzero : a ≠ 0) :
    x.rank = if a < 0 then a - 1 else a := by
  cases x with
  | finite negative m =>
    cases h
    exact signedApart_eq nonzero
  | infinite negative =>
    cases h
    exact signedApart_eq nonzero
  | nan => cases h

/-- Of the doubles that stand for one number only the zeros are several. -/
theorem eq_of_real?_eq {x y : Double} {r : EReal} (hx : x.real? = some r) (hy : y.real? = some r)
    (other : x.toWhole? = none) : x = y := by
  rw [real?_eq, Option.map_eq_some_iff] at hx hy
  obtain ⟨a, hx, rfl⟩ := hx
  obtain ⟨b, hy, same⟩ := hy
  obtain rfl := strictMonoOn_ofPlace.injOn (natAbs_le_of_units? hy) (natAbs_le_of_units? hx) same
  have nonzero : b ≠ 0 := by
    rintro rfl
    have zero : x.real? = some (Whole.real ⟨0, by decide, by decide⟩) := by
      rw [real?_eq, hx, Whole.real_eq_ofPlace, Int.zero_mul]
      rfl
    rw [toWhole?_eq_some_iff.2 zero] at other
    cases other
  apply rank_injective
  rw [rank_of_units? hx nonzero, rank_of_units? hy nonzero]

/-- A place among the units, rounded to that of a double. -/
def roundInt (a : Int) : Int := signed (decide (a < 0)) (Magnitude.roundNat a.natAbs)

theorem roundInt_mul_one (i : Int) :
    roundInt (i * one) = signed (decide (i < 0)) (Magnitude.roundNat (i.natAbs * one)) := by
  have negative : i * one < 0 ↔ i < 0 := by
    rw [← Int.not_le, ← Int.not_le, mul_nonneg_iff_of_pos_right (Int.natCast_pos.2 one_pos)]
  rw [roundInt, Int.natAbs_mul, Int.natAbs_natCast]
  simp only [negative]

theorem units?_ofInt {i : Int} (h : i.natAbs ≤ 2 ^ 127) : (ofInt i).units? = some (roundInt (i * one)) := by
  obtain ⟨m, hm, units⟩ := Magnitude.exists_nearest?_one (log2_units_le h)
  rw [ofInt, ofUnits, hm, roundInt_mul_one, ← units]
  rfl

theorem roundInt_mono {a b : Int} (h : a ≤ b) : roundInt a ≤ roundInt b := by
  unfold roundInt signed
  by_cases ha : a < 0 <;> by_cases hb : b < 0
  · have sizes := Magnitude.roundNat_mono (show b.natAbs ≤ a.natAbs by omega)
    simp [ha, hb, sizes]
  · simp [ha, hb]
  · omega
  · have sizes := Magnitude.roundNat_mono (show a.natAbs ≤ b.natAbs by omega)
    simp [ha, hb, sizes]

theorem roundInt_signed {negative : Bool} {n : Nat} (h : Magnitude.roundNat n = n) :
    roundInt (signed negative n) = signed negative n := by
  rw [roundInt, natAbs_signed, h]
  cases negative with
  | false => simp [signed]
  | true =>
    simp [signed]

theorem roundInt_of_units? {x : Double} {a : Int} (h : x.units? = some a) : roundInt a = a := by
  cases x with
  | finite negative m =>
    cases h
    exact roundInt_signed (Magnitude.roundNat_mul_pow_of_lt m.significand_lt m.scale)
  | infinite negative =>
    cases h
    obtain ⟨e, -, top⟩ := Magnitude.exists_beyond_eq
    apply roundInt_signed
    rw [top, ← Nat.one_mul (2 ^ e)]
    exact Magnitude.roundNat_mul_pow_of_lt (by decide) e
  | nan => cases h

/-- The number of a double has a place that rounding leaves as it is. -/
theorem exists_place {x : Double} {r : EReal} (h : x.real? = some r) :
    ∃ a, ofPlace a = r ∧ a.natAbs ≤ beyond ∧ roundInt a = a := by
  rw [real?_eq, Option.map_eq_some_iff] at h
  obtain ⟨a, place, value⟩ := h
  exact ⟨a, value, natAbs_le_of_units? place, roundInt_of_units? place⟩

theorem roundInt_of_small {a : Int} (h : a.natAbs ≤ 2 ^ 53) : roundInt (a * one) = a * one := by
  obtain ⟨e, -, unit⟩ := exists_one_eq
  have sign : signed (decide (a < 0)) a.natAbs = a := by
    unfold signed
    split <;> rename_i negative <;> simp at negative <;> omega
  rw [roundInt_mul_one, unit, Magnitude.roundNat_mul_pow h, ← unit, signed_mul, sign]

end Double

namespace Whole

noncomputable def nearest (w : Whole) : EReal := Double.ofPlace (Double.roundInt (w.toInt * Double.one))

theorem natAbs_roundInt_le (w : Whole) : (Double.roundInt (w.toInt * Double.one)).natAbs ≤ Double.beyond :=
  Double.natAbs_le_of_units? (Double.units?_ofInt w.natAbs_le)

theorem real?_ofInt (w : Whole) : (Double.ofInt w.toInt).real? = some w.nearest := by
  rw [Double.real?_eq, Double.units?_ofInt w.natAbs_le]
  rfl

/-- The nearest double is a whole number, `2 ^ 127` if need be, which is too large to be held as one. -/
theorem exists_nearest_eq (w : Whole) :
    ∃ k : Int, w.nearest = ((k : ℝ) : EReal) ∧ k.natAbs ≤ 2 ^ 127 ∧ (k = 2 ^ 127 ↔ 2 ^ 127 - 2 ^ 73 ≤ w.toInt) := by
  obtain ⟨n, hn⟩ := Double.one_dvd_roundNat w.toInt.natAbs
  have upper := Magnitude.roundNat_mono (Nat.mul_le_mul_right Double.one w.natAbs_le)
  have last := Double.roundNat_mul_one_eq_iff w.natAbs_le
  rw [(Double.roundNat_mul_one_eq_iff (Nat.le_refl _)).2 (by decide), hn, Nat.mul_comm] at upper
  rw [hn, Nat.mul_comm, Nat.mul_left_inj Double.one_pos.ne'] at last
  have inside : n ≤ 2 ^ 127 := Nat.le_of_mul_le_mul_right upper Double.one_pos
  have place : Double.roundInt (w.toInt * Double.one) = Double.signed (decide (w.toInt < 0)) n * Double.one := by
    rw [Double.roundInt_mul_one, hn, Nat.mul_comm, Double.signed_mul]
  refine ⟨Double.signed (decide (w.toInt < 0)) n, ?_, ?_, ?_⟩
  · rw [nearest, place, Double.ofPlace_mul_one]
    rwa [Double.natAbs_signed]
  · rwa [Double.natAbs_signed]
  · by_cases below : w.toInt < 0
    · simp only [Double.signed, below, decide_true, if_true]
      omega
    · simp only [Double.signed, below, decide_false, Bool.false_eq_true, if_false]
      omega

theorem nearest_eq_real_iff {w i : Whole} :
    w.nearest = i.real ↔ Double.roundInt (w.toInt * Double.one) = i.toInt * Double.one := by
  rw [nearest, real_eq_ofPlace,
    Double.strictMonoOn_ofPlace.injOn.eq_iff w.natAbs_roundInt_le i.natAbs_place_lt.le]

/-- To a number of up to fifty-three bits no other one is rounded. -/
theorem eq_of_nearest_eq_real {w i : Whole} (h : i.toInt.natAbs < 2 ^ 53) (rounded : w.nearest = i.real) : w = i := by
  rw [nearest_eq_real_iff] at rounded
  have positive : (0 : Int) < Double.one := Int.natCast_pos.2 Double.one_pos
  have inside : w.toInt.natAbs ≤ 2 ^ 53 := by
    by_contra large
    by_cases negative : w.toInt < 0
    · have below := Double.roundInt_mono (Int.mul_le_mul_of_nonneg_right (show w.toInt ≤ -2 ^ 53 by omega) positive.le)
      rw [rounded, Double.roundInt_of_small (by decide)] at below
      have less := Int.le_of_mul_le_mul_right below positive
      omega
    · have above := Double.roundInt_mono (Int.mul_le_mul_of_nonneg_right (show 2 ^ 53 ≤ w.toInt by omega) positive.le)
      rw [rounded, Double.roundInt_of_small (by decide)] at above
      have greater := Int.le_of_mul_le_mul_right above positive
      omega
  rw [Double.roundInt_of_small inside] at rounded
  apply real_injective
  rw [real, real, Int.eq_of_mul_eq_mul_right positive.ne' rounded]

variable {x : Double} {r : EReal}

theorem nearest_le {w : Whole} (h : x.real? = some r) (le : w.real ≤ r) : w.nearest ≤ r := by
  obtain ⟨a, rfl, inside, rounded⟩ := Double.exists_place h
  rw [real_eq_ofPlace, Double.strictMonoOn_ofPlace.le_iff_le w.natAbs_place_lt.le inside] at le
  rw [nearest, Double.strictMonoOn_ofPlace.le_iff_le w.natAbs_roundInt_le inside, ← rounded]
  exact Double.roundInt_mono le

theorem le_nearest {w : Whole} (h : x.real? = some r) (le : r ≤ w.real) : r ≤ w.nearest := by
  obtain ⟨a, rfl, inside, rounded⟩ := Double.exists_place h
  rw [real_eq_ofPlace, Double.strictMonoOn_ofPlace.le_iff_le inside w.natAbs_place_lt.le] at le
  rw [nearest, Double.strictMonoOn_ofPlace.le_iff_le inside w.natAbs_roundInt_le, ← rounded]
  exact Double.roundInt_mono le

/-- A whole number that a double stands for is its own nearest double. -/
theorem nearest_eq_of_real? {w : Whole} (h : x.real? = some w.real) : w.nearest = w.real :=
  le_antisymm (nearest_le h le_rfl) (le_nearest h le_rfl)

/-- The number of a double is to a whole number as to the nearest double, unless it is that double's. -/
theorem compare_nearest (h : x.real? = some r) (w : Whole) :
    compare r w.nearest = if w.nearest = r then .eq else compare r w.real := by
  rcases lt_trichotomy r w.nearest with less | same | greater
  · have below : r < w.real := lt_of_not_ge fun le => (nearest_le h le).not_gt less
    rw [if_neg less.ne', compare_lt_iff_lt.2 less, compare_lt_iff_lt.2 below]
  · rw [if_pos same.symm, same, compare_eq_iff_eq]
  · have above : w.real < r := lt_of_not_ge fun le => (le_nearest h le).not_gt greater
    rw [if_neg greater.ne, compare_gt_iff_gt.2 greater, compare_gt_iff_gt.2 above]

theorem nearest_compare (h : x.real? = some r) (w : Whole) :
    compare w.nearest r = if w.nearest = r then .eq else compare w.real r := by
  have swapped : compare w.nearest r = (compare r w.nearest).swap := Std.OrientedCmp.eq_swap
  rw [swapped, compare_nearest h w]
  split
  · rfl
  · exact Std.OrientedCmp.eq_swap.symm

/-- A double that holds no whole number is the nearest one to a whole number only past the last of them. -/
theorem nearest_eq_iff (h : x.real? = some r) (other : x.toWhole? = none) (w : Whole) :
    w.nearest = r ↔ r = ((2 ^ 127 : ℝ) : EReal) ∧ 2 ^ 127 - 2 ^ 73 ≤ w.toInt := by
  obtain ⟨k, nearest, bounds, last⟩ := w.exists_nearest_eq
  have past : k = 2 ^ 127 ↔ ((k : ℝ) : EReal) = ((2 ^ 127 : ℝ) : EReal) := by
    rw [EReal.coe_eq_coe_iff]
    norm_cast
  rw [← last, nearest, past]
  constructor
  · rintro rfl
    by_cases inside : k < 2 ^ 127
    · have held := Double.toWhole?_eq_some_iff.2 (h.trans (show _ = some (Whole.real ⟨k, by omega, inside⟩) from rfl))
      rw [other] at held
      cases held
    · have highest : ((k : ℝ) : EReal) = ((2 ^ 127 : ℝ) : EReal) := past.1 (by omega)
      exact ⟨highest, highest⟩
  · rintro ⟨rfl, rounded⟩
    exact rounded

end Whole

end RecordFilter
