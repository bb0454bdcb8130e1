import Mathlib.Algebra.Order.Ring.Nat
import RecordFilter.Number.Scaled

set_option autoImplicit false

namespace RecordFilter

namespace Magnitude

theorem roundDiv_mono (den : Nat) {a b : Nat} (h : a ≤ b) : roundDiv a den ≤ roundDiv b den := by
  have quotients : a / den ≤ b / den := Nat.div_le_div_right h
  have ha := Nat.div_add_mod a den
  have hb := Nat.div_add_mod b den
  simp only [roundDiv]
  rcases Nat.lt_or_eq_of_le quotients with less | same
  · split <;> split <;> omega
  · have remainders : a % den ≤ b % den := by
      rw [same] at ha
      omega
    rw [same]
    split <;> split <;> omega

theorem roundDiv_mul_self {den : Nat} (k : Nat) (h : 0 < den) : roundDiv (k * den) den = k := by
  simp only [roundDiv, Nat.mul_div_cancel k h, Nat.mul_mod_left]
  rw [if_neg (by omega)]

theorem roundNat_eq (n : Nat) : roundNat n = roundDiv n (2 ^ (n.log2 - 52)) * 2 ^ (n.log2 - 52) := rfl

theorem roundNat_le_of_le {n k : Nat} (h : n ≤ k * 2 ^ (n.log2 - 52)) : roundNat n ≤ k * 2 ^ (n.log2 - 52) := by
  have rounded := roundDiv_mono (2 ^ (n.log2 - 52)) h
  rw [roundDiv_mul_self k (Nat.two_pow_pos _)] at rounded
  rw [roundNat_eq]
  exact Nat.mul_le_mul_right _ rounded

theorem le_roundNat_of_le {n k : Nat} (h : k * 2 ^ (n.log2 - 52) ≤ n) : k * 2 ^ (n.log2 - 52) ≤ roundNat n := by
  have rounded := roundDiv_mono (2 ^ (n.log2 - 52)) h
  rw [roundDiv_mul_self k (Nat.two_pow_pos _)] at rounded
  rw [roundNat_eq]
  exact Nat.mul_le_mul_right _ rounded

theorem roundNat_le (n : Nat) : roundNat n ≤ 2 ^ (n.log2 + 1) := by
  have whole : 2 ^ (n.log2 + 1 - (n.log2 - 52)) * 2 ^ (n.log2 - 52) = 2 ^ (n.log2 + 1) :=
    Nat.pow_sub_mul_pow 2 (by omega)
  rw [← whole]
  apply roundNat_le_of_le
  rw [whole]
  exact Nat.le_of_lt Nat.lt_log2_self

theorem le_roundNat {n : Nat} (h : n ≠ 0) : 2 ^ n.log2 ≤ roundNat n := by
  have whole : 2 ^ (n.log2 - (n.log2 - 52)) * 2 ^ (n.log2 - 52) = 2 ^ n.log2 :=
    Nat.pow_sub_mul_pow 2 (by omega)
  rw [← whole]
  apply le_roundNat_of_le
  rw [whole]
  exact Nat.log2_self_le h

theorem log2_mono {a b : Nat} (ha : a ≠ 0) (h : a ≤ b) : a.log2 ≤ b.log2 := by
  have hb : b ≠ 0 := by omega
  exact (Nat.le_log2 hb).2 ((Nat.log2_self_le ha).trans h)

theorem roundNat_mono {a b : Nat} (h : a ≤ b) : roundNat a ≤ roundNat b := by
  by_cases ha : a = 0
  · rw [ha]
    exact Nat.zero_le _
  · rcases Nat.lt_or_eq_of_le (log2_mono ha h) with less | same
    · have between : 2 ^ (a.log2 + 1) ≤ 2 ^ b.log2 := Nat.pow_le_pow_right (by decide) less
      have hb : b ≠ 0 := by omega
      exact (roundNat_le a).trans (between.trans (le_roundNat hb))
    · rw [roundNat_eq, roundNat_eq, same]
      exact Nat.mul_le_mul_right _ (roundDiv_mono _ h)

theorem roundNat_of_dvd {n : Nat} (h : 2 ^ (n.log2 - 52) ∣ n) : roundNat n = n := by
  obtain ⟨k, hk⟩ := h
  rw [Nat.mul_comm] at hk
  have upper := roundNat_le_of_le (Nat.le_of_eq hk)
  have lower := le_roundNat_of_le (Nat.le_of_eq hk.symm)
  rw [← hk] at upper lower
  exact Nat.le_antisymm upper lower

theorem roundNat_mul_pow_of_lt {k : Nat} (h : k < 2 ^ 53) (e : Nat) : roundNat (k * 2 ^ e) = k * 2 ^ e := by
  by_cases zero : k = 0
  · rw [zero, Nat.zero_mul]
    rfl
  · have hn : k * 2 ^ e ≠ 0 := Nat.mul_ne_zero zero (Nat.two_pow_pos e).ne'
    have size : k * 2 ^ e < 2 ^ (53 + e) := by
      rw [Nat.pow_add]
      exact Nat.mul_lt_mul_of_pos_right h (Nat.two_pow_pos e)
    have log : (k * 2 ^ e).log2 < 53 + e := (Nat.log2_lt hn).2 size
    have unit : 2 ^ ((k * 2 ^ e).log2 - 52) ∣ 2 ^ e := Nat.pow_dvd_pow 2 (by omega)
    exact roundNat_of_dvd (unit.mul_left k)

/-- Fifty-three bits hold every number up to the first that has one bit more, and that one too. -/
theorem roundNat_mul_pow {k : Nat} (h : k ≤ 2 ^ 53) (e : Nat) : roundNat (k * 2 ^ e) = k * 2 ^ e := by
  rcases Nat.lt_or_eq_of_le h with less | same
  · exact roundNat_mul_pow_of_lt less e
  · have halved : k * 2 ^ e = 2 ^ 52 * 2 ^ (e + 1) := by
      rw [same, ← Nat.pow_add, ← Nat.pow_add]
      congr 1
      omega
    rw [halved]
    exact roundNat_mul_pow_of_lt (by decide) (e + 1)

theorem ofParts?_eq_some (significand scale : Nat) (h : significand < 2 ^ 53) (hscale : scale ≤ 2045)
    (normal : scale = 0 ∨ 2 ^ 52 ≤ significand) :
    ∃ m, ofParts? significand scale = some m ∧ m.units = significand * 2 ^ scale :=
  ⟨⟨significand, scale, h, hscale, normal⟩, dif_pos ⟨h, hscale, normal⟩, rfl⟩

theorem exists_nearest?_one {n : Nat} (h : n.log2 ≤ 2096) : ∃ m, nearest? n 1 = some m ∧ m.units = roundNat n := by
  have upper : n ≤ 2 ^ 53 * 2 ^ (n.log2 - 52) := by
    rw [← Nat.pow_add]
    have below : n < 2 ^ (n.log2 + 1) := Nat.lt_log2_self
    exact (Nat.le_of_lt below).trans (Nat.pow_le_pow_right (by decide) (by omega))
  have significand_le : roundDiv n (2 ^ (n.log2 - 52)) ≤ 2 ^ 53 := by
    have rounded := roundDiv_mono (2 ^ (n.log2 - 52)) upper
    rwa [roundDiv_mul_self _ (Nat.two_pow_pos _)] at rounded
  have normal : n.log2 - 52 = 0 ∨ 2 ^ 52 ≤ roundDiv n (2 ^ (n.log2 - 52)) := by
    by_cases small : n.log2 ≤ 52
    · exact Or.inl (by omega)
    · right
      have hn : n ≠ 0 := by
        rintro rfl
        exact small (by decide)
      have lower : 2 ^ 52 * 2 ^ (n.log2 - 52) ≤ n := by
        rw [← Nat.pow_add, Nat.add_sub_of_le (by omega)]
        exact Nat.log2_self_le hn
      have rounded := roundDiv_mono (2 ^ (n.log2 - 52)) lower
      rwa [roundDiv_mul_self _ (Nat.two_pow_pos _)] at rounded
  have unfolded : nearest? n 1 = if roundDiv n (2 ^ (n.log2 - 52)) = 2 ^ 53 then ofParts? (2 ^ 52) (n.log2 - 52 + 1)
      else ofParts? (roundDiv n (2 ^ (n.log2 - 52))) (n.log2 - 52) := by
    rw [nearest?, Nat.div_one, Nat.one_mul]
    rfl
  rw [unfolded, roundNat_eq]
  by_cases carried : roundDiv n (2 ^ (n.log2 - 52)) = 2 ^ 53
  · rw [if_pos carried, carried]
    obtain ⟨m, hm, units⟩ := ofParts?_eq_some (2 ^ 52) (n.log2 - 52 + 1) (by decide) (by omega)
      (Or.inr (Nat.le_refl _))
    refine ⟨m, hm, ?_⟩
    rw [units, ← Nat.pow_add, ← Nat.pow_add]
    congr 1
    omega
  · rw [if_neg carried]
    exact ofParts?_eq_some _ _ (by omega) (by omega) normal

theorem exists_beyond_eq : ∃ e, 2098 ≤ e ∧ Double.beyond = 2 ^ e := ⟨2098, Nat.le_refl _, by decide +kernel⟩

theorem units_lt (m : Magnitude) : m.units < Double.beyond := by
  have scaled : m.units < 2 ^ 53 * 2 ^ m.scale := Nat.mul_lt_mul_of_pos_right m.significand_lt (Nat.two_pow_pos _)
  obtain ⟨e, he, top⟩ := exists_beyond_eq
  have scale_le := m.scale_le
  rw [← Nat.pow_add] at scaled
  rw [top]
  exact Nat.lt_of_lt_of_le scaled (Nat.pow_le_pow_right (by decide) (by omega))

theorem scale_le_of_units_eq {m m' : Magnitude} (h : m.units = m'.units) : m'.scale ≤ m.scale := by
  by_contra less
  have normal : 2 ^ 52 ≤ m'.significand := m'.normal.resolve_left (by omega)
  have upper : m.units < 2 ^ 53 * 2 ^ m.scale := Nat.mul_lt_mul_of_pos_right m.significand_lt (Nat.two_pow_pos _)
  have lower : 2 ^ 52 * 2 ^ m'.scale ≤ m'.units := Nat.mul_le_mul_right _ normal
  have between : 2 ^ 53 * 2 ^ m.scale ≤ 2 ^ 52 * 2 ^ m'.scale := by
    rw [← Nat.pow_add, ← Nat.pow_add]
    exact Nat.pow_le_pow_right (by decide) (by omega)
  omega

theorem units_injective : Function.Injective units := by
  intro m m' h
  have scales : m.scale = m'.scale := Nat.le_antisymm (scale_le_of_units_eq h.symm) (scale_le_of_units_eq h)
  have significands : m.significand = m'.significand := by
    change m.significand * 2 ^ m.scale = m'.significand * 2 ^ m'.scale at h
    rw [scales] at h
    exact Nat.eq_of_mul_eq_mul_right (Nat.two_pow_pos _) h
  cases m
  cases m'
  cases scales
  cases significands
  rfl

end Magnitude

namespace Double

theorem signedApart_injective {negative negative' : Bool} {n n' : Nat}
    (h : signedApart negative n = signedApart negative' n') : negative = negative' ∧ n = n' := by
  cases negative <;> cases negative' <;> simp [signedApart] at h ⊢ <;> omega

theorem rank_injective : Function.Injective rank := by
  intro x y h
  cases x with
  | finite negative m =>
    have apart := m.units_lt
    cases y with
    | finite negative' m' =>
      obtain ⟨rfl, units⟩ := signedApart_injective h
      rw [Magnitude.units_injective units]
    | infinite | nan =>
      have units := (signedApart_injective h).2
      omega
  | infinite negative =>
    cases y with
    | finite negative' m' =>
      have apart := m'.units_lt
      have units := (signedApart_injective h).2
      omega
    | infinite negative' =>
      obtain ⟨rfl, -⟩ := signedApart_injective h
      rfl
    | nan =>
      have units := (signedApart_injective h).2
      omega
  | nan negative payload =>
    cases y with
    | finite negative' m' =>
      have apart := m'.units_lt
      have units := (signedApart_injective h).2
      omega
    | infinite =>
      have units := (signedApart_injective h).2
      omega
    | nan negative' payload' =>
      obtain ⟨rfl, payloads⟩ := signedApart_injective h
      obtain rfl : payload = payload' := Fin.ext (by omega)
      rfl

theorem exists_one_eq : ∃ e, e = 1074 ∧ one = 2 ^ e := ⟨1074, rfl, by decide +kernel⟩

theorem log2_units_le {n : Nat} (h : n ≤ 2 ^ 127) : (n * one).log2 ≤ 2096 := by
  obtain ⟨e, he, unit⟩ := exists_one_eq
  rw [unit]
  by_cases zero : n * 2 ^ e = 0
  · rw [zero]
    decide
  · have size : n * 2 ^ e < 2 ^ (128 + e) := by
      rw [Nat.pow_add]
      exact Nat.mul_lt_mul_of_pos_right (by omega) (Nat.two_pow_pos e)
    have log : (n * 2 ^ e).log2 < 128 + e := (Nat.log2_lt zero).2 size
    omega

/-- A whole number stays one when it is rounded. -/
theorem one_dvd_roundNat (n : Nat) : one ∣ Magnitude.roundNat (n * one) := by
  obtain ⟨e, -, unit⟩ := exists_one_eq
  rw [unit]
  by_cases small : (n * 2 ^ e).log2 - 52 < e
  · have upper : n * 2 ^ e < 2 ^ 53 * 2 ^ e := by
      rw [← Nat.pow_add]
      exact Nat.lt_log2_self.trans_le (Nat.pow_le_pow_right (by decide) (by omega))
    rw [Magnitude.roundNat_mul_pow_of_lt (Nat.lt_of_mul_lt_mul_right upper)]
    exact Nat.dvd_mul_left _ _
  · have multiple : 2 ^ e ∣ 2 ^ ((n * 2 ^ e).log2 - 52) := Nat.pow_dvd_pow 2 (by omega)
    rw [Magnitude.roundNat_eq]
    exact multiple.mul_left _

/-- Below `2 ^ 127` doubles are `2 ^ 74` apart, so the last `2 ^ 73` whole numbers are rounded to it. -/
theorem roundNat_mul_one_eq_iff {n : Nat} (h : n ≤ 2 ^ 127) :
    Magnitude.roundNat (n * one) = 2 ^ 127 * one ↔ 2 ^ 127 - 2 ^ 73 ≤ n := by
  have highest : Magnitude.roundNat (2 ^ 127 * one) = 2 ^ 127 * one := by decide +kernel
  have half : Magnitude.roundNat ((2 ^ 127 - 2 ^ 73) * one) = 2 ^ 127 * one := by decide +kernel
  have less : Magnitude.roundNat ((2 ^ 127 - 2 ^ 73 - 1) * one) < 2 ^ 127 * one := by decide +kernel
  constructor
  · intro rounded
    by_contra below
    have before : n ≤ 2 ^ 127 - 2 ^ 73 - 1 := by omega
    have smaller := Magnitude.roundNat_mono (Nat.mul_le_mul_right one before)
    exact (smaller.trans_lt less).ne rounded
  · intro above
    have lower := Magnitude.roundNat_mono (Nat.mul_le_mul_right one above)
    have upper := Magnitude.roundNat_mono (Nat.mul_le_mul_right one h)
    rw [half] at lower
    rw [highest] at upper
    exact Nat.le_antisymm upper lower

theorem rank_ofInt {i : Int} (h : i.natAbs ≤ 2 ^ 127) :
    (ofInt i).rank = signedApart (decide (i < 0)) (Magnitude.roundNat (i.natAbs * one)) := by
  obtain ⟨m, hm, units⟩ := Magnitude.exists_nearest?_one (log2_units_le h)
  rw [ofInt, ofUnits, hm, ← units]
  rfl

theorem rank_ofInt_mono {i j : Int} (hi : i.natAbs ≤ 2 ^ 127) (hj : j.natAbs ≤ 2 ^ 127) (h : i ≤ j) :
    (ofInt i).rank ≤ (ofInt j).rank := by
  rw [rank_ofInt hi, rank_ofInt hj]
  by_cases hi0 : i < 0
  · by_cases hj0 : j < 0
    · have sizes : j.natAbs * one ≤ i.natAbs * one := Nat.mul_le_mul_right _ (by omega)
      have rounded := Magnitude.roundNat_mono sizes
      simp only [signedApart, hi0, hj0, decide_true, if_true]
      omega
    · simp only [signedApart, hi0, hj0, decide_true, decide_false, if_true]
      rw [if_neg (by decide)]
      omega
  · have hj0 : ¬ j < 0 := by omega
    have sizes : i.natAbs * one ≤ j.natAbs * one := Nat.mul_le_mul_right _ (by omega)
    have rounded := Magnitude.roundNat_mono sizes
    simp only [signedApart, hi0, hj0, decide_false]
    rw [if_neg (by decide), if_neg (by decide)]
    omega

theorem rank_ofInt_of_small {i : Int} (h : i.natAbs ≤ 2 ^ 53) :
    (ofInt i).rank = signedApart (decide (i < 0)) (i.natAbs * one) := by
  obtain ⟨e, -, unit⟩ := exists_one_eq
  rw [rank_ofInt (h.trans (by decide)), unit, Magnitude.roundNat_mul_pow h]

theorem eq_of_ofInt_eq {i j : Int} (hi : i.natAbs ≤ 2 ^ 53) (hj : j.natAbs ≤ 2 ^ 53) (h : ofInt i = ofInt j) :
    i = j := by
  have ranks := congrArg rank h
  rw [rank_ofInt_of_small hi, rank_ofInt_of_small hj] at ranks
  obtain ⟨signs, sizes⟩ := signedApart_injective ranks
  obtain ⟨e, -, unit⟩ := exists_one_eq
  rw [unit] at sizes
  have same : i.natAbs = j.natAbs := Nat.eq_of_mul_eq_mul_right (Nat.two_pow_pos e) sizes
  rw [decide_eq_decide] at signs
  omega

end Double

end RecordFilter
