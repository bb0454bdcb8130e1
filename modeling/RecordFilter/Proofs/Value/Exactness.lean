import Mathlib
import RecordFilter.Literal
import RecordFilter.Proofs.Number.Reading
import RecordFilter.Proofs.Number.Real

set_option autoImplicit false

namespace RecordFilter

namespace Value

noncomputable def real? : Value → Option EReal
  | integer i => some i.real
  | number x => x.real?
  | _ => none

theorem compareLiteral?_number_integer {x : Double} {r : EReal} (h : x.real? = some r) (i : Whole) (foldCase : Bool) :
    (number x).compareLiteral? (.integer i) foldCase =
      some (if r = ((2 ^ 127 : ℝ) : EReal) ∧ 2 ^ 127 - 2 ^ 73 ≤ i.toInt then .eq else compare r i.real) := by
  rw [compareLiteral?, asInteger?]
  cases whole : x.toWhole? with
  | some w =>
    have held := Double.toWhole?_eq_some_iff.1 whole
    rw [h, Option.some_inj] at held
    rw [if_neg fun ⟨last, _⟩ => w.real_lt_two_pow.ne (held.symm.trans last), held, w.compare_real]
  | none =>
    simp only [← i.nearest_eq_iff h whole, ← i.compare_nearest h]
    rw [asNumber?, Option.bind_some, Double.compare?_eq, h, i.real?_ofInt]
    rfl

/-- The order of a field and a whole number is that of the two numbers, unless they are `2 ^ 127` and one of the whole
numbers that are rounded to it. -/
theorem compareLiteral?_integer {v : Value} {r : EReal} (h : v.real? = some r) (i : Whole) (foldCase : Bool) :
    v.compareLiteral? (.integer i) foldCase =
      some (if r = ((2 ^ 127 : ℝ) : EReal) ∧ 2 ^ 127 - 2 ^ 73 ≤ i.toInt then .eq else compare r i.real) := by
  cases v with
  | integer w =>
    cases h
    rw [if_neg fun ⟨last, _⟩ => w.real_lt_two_pow.ne last, w.compare_real]
    rfl
  | number x => exact compareLiteral?_number_integer h i foldCase
  | _ => cases h

def tooLarge : Double := .finite false ⟨2 ^ 52, 1149, by decide, by decide, Or.inr (Nat.le_refl _)⟩

theorem real?_tooLarge : (number tooLarge).real? = some ((2 ^ 127 : ℝ) : EReal) := by
  have units : tooLarge.units? = some ((2 ^ 127 : Int) * Double.one) := by decide +kernel
  have place : Double.ofPlace ((2 ^ 127 : Int) * Double.one) = (((2 ^ 127 : Int) : ℝ) : EReal) :=
    Double.ofPlace_mul_one (by decide)
  rw [real?, Double.real?_eq, units, Option.map_some, place]
  norm_num

/-- The last whole number that is told from it. -/
theorem compareLiteral?_tooLarge_told :
    (number tooLarge).real? = some ((2 ^ 127 : ℝ) : EReal) ∧
      (number tooLarge).compareLiteral? (.integer ⟨2 ^ 127 - 2 ^ 73 - 1, by decide, by decide⟩) false = some .gt := by
  refine ⟨real?_tooLarge, ?_⟩
  rw [compareLiteral?_integer real?_tooLarge, if_neg fun ⟨_, rounded⟩ => absurd rounded (by decide), Option.some_inj,
    compare_gt_iff_gt]
  exact Whole.real_lt_two_pow _

/-- The largest whole number is less than the double, and is taken for its equal. -/
theorem compareLiteral?_tooLarge_largest :
    ∃ r, (number tooLarge).real? = some r ∧ compare r (Whole.real ⟨2 ^ 127 - 1, by decide, by decide⟩) = .gt ∧
      (number tooLarge).compareLiteral? (.integer ⟨2 ^ 127 - 1, by decide, by decide⟩) false = some .eq := by
  refine ⟨_, real?_tooLarge, ?_, ?_⟩
  · rw [compare_gt_iff_gt]
    exact Whole.real_lt_two_pow _
  · decide +kernel

end Value

namespace Whole

/-- Whether the nearest double to the whole number is another whole number, that one. -/
def roundsTo (w i : Whole) : Bool := w != i && (Double.ofInt w.toInt).toWhole? == some i

theorem roundsTo_iff {w i : Whole} : w.roundsTo i = true ↔ w ≠ i ∧ w.nearest = i.real := by
  rw [roundsTo, Bool.and_eq_true, bne_iff_ne, beq_iff_eq, Double.toWhole?_eq_some_iff, w.real?_ofInt, Option.some_inj]

theorem roundsTo_of_small {i : Whole} (h : i.toInt.natAbs < 2 ^ 53) (w : Whole) : w.roundsTo i = false := by
  rw [← Bool.not_eq_true, roundsTo_iff]
  rintro ⟨apart, rounded⟩
  exact apart (eq_of_nearest_eq_real h rounded)

end Whole

namespace Value

def roundsTo (v : Value) (i : Whole) : Bool := v.asInteger?.any fun w => w.roundsTo i

theorem roundsTo_of_small {i : Whole} (h : i.toInt.natAbs < 2 ^ 53) (v : Value) : v.roundsTo i = false := by
  rw [roundsTo]
  cases v.asInteger? with
  | some w => exact Whole.roundsTo_of_small h w
  | none => rfl

/-- What is taken for a whole number is taken for its nearest double as well. -/
theorem exists_asNumber? {v : Value} {w : Whole} (h : v.asInteger? = some w) :
    ∃ y, v.asNumber? = some y ∧ y.real? = some w.nearest := by
  cases v with
  | integer i =>
    cases h
    exact ⟨_, rfl, w.real?_ofInt⟩
  | number y =>
    have held := Double.toWhole?_eq_some_iff.1 h
    exact ⟨y, rfl, held.trans (congrArg some (Whole.nearest_eq_of_real? held).symm)⟩
  | text s =>
    obtain ⟨negative, m, read, units⟩ := Double.exists_readFinite? h
    refine ⟨_, read, ?_⟩
    rw [Double.real?_eq, Double.units?, Option.map_some, units, ← Double.roundInt_mul_one]
    rfl
  | _ => cases h

variable {x : Double} {i : Whole}

/-- The double is compared as the whole number is that it stands for, but takes what is rounded to it for its equal. -/
theorem compareLiteral?_number (h : x.real? = some i.real) (v : Value) (foldCase : Bool) :
    v.compareLiteral? (.number x) foldCase =
      if v.roundsTo i then some .eq else v.compareLiteral? (.integer i) foldCase := by
  rw [compareLiteral?, compareLiteral?, roundsTo]
  cases whole : v.asInteger? with
  | some w =>
    obtain ⟨y, read, nearest⟩ := exists_asNumber? whole
    have order : compare w.nearest i.real = if w.roundsTo i then .eq else compare w.toInt i.toInt := by
      rw [Whole.nearest_compare h, ← w.compare_real]
      by_cases same : w = i
      · rw [same, compare_eq_iff_eq.2 rfl, ite_self, ite_self]
      · simp only [Whole.roundsTo_iff, ne_eq, same, not_false_eq_true, true_and]
    rw [read, Option.bind_some, Double.compare?_eq, nearest, h, Option.any_some]
    change some (compare w.nearest i.real) = _
    rw [order]
    split <;> rfl
  | none =>
    have same : (Double.ofInt i.toInt).real? = x.real? := by
      rw [i.real?_ofInt, h, Whole.nearest_eq_of_real? h]
    simp only [Double.compare?_eq, same, Option.any_none, Bool.false_eq_true, if_false]

end Value

end RecordFilter
