import Mathlib
import RecordFilter.Record.Key
import RecordFilter.Proofs.Value.Coercion
import RecordFilter.Proofs.Value.Exactness

set_option autoImplicit false

/-!
# What record keys tell apart

Values that make record keys make the same one if they are the same number, whether whole numbers or doubles, or both no
number at all, or equal values of one of the other kinds, and else they make different ones.
-/

namespace RecordFilter

namespace Double

theorem real?_eq_none_iff {x : Double} : x.real? = none ↔ x.isNaN = true := by
  cases x with
  | finite | infinite => exact iff_of_false nofun nofun
  | nan => exact iff_of_true rfl rfl

end Double

namespace Value

/-- The identity of values: that of the numbers where there are two numbers, else that of the values, and of all that is
no number. -/
inductive Coincides : Value → Value → Prop
  | text (s : String) : Coincides (text s) (text s)
  | bool (b : Bool) : Coincides (bool b) (bool b)
  | guid (g : Guid) : Coincides (guid g) (guid g)
  | dateTime (t : DateTime) : Coincides (dateTime t) (dateTime t)
  | date (d : Date) : Coincides (date d) (date d)
  | nan {x y : Double} (hx : x.isNaN = true) (hy : y.isNaN = true) : Coincides (number x) (number y)
  | number {v w : Value} {r : EReal} (hv : v.real? = some r) (hw : w.real? = some r) : Coincides v w

namespace Coincides

variable {u v w : Value}

theorem symm (h : Coincides v w) : Coincides w v := by
  cases h with
  | number hv hw => exact .number hw hv
  | nan hx hy => exact .nan hy hx
  | _ => constructor

theorem refl_number (x : Double) : Coincides (Value.number x) (Value.number x) := by
  cases h : x.real? with
  | some r => exact .number h h
  | none => exact .nan (Double.real?_eq_none_iff.1 h) (Double.real?_eq_none_iff.1 h)

theorem real?_eq (h : Coincides v w) : v.real? = w.real? := by
  cases h with
  | number hv hw => rw [hv, hw]
  | nan hx hy => exact (Double.real?_eq_none_iff.2 hx).trans (Double.real?_eq_none_iff.2 hy).symm
  | _ => rfl

theorem trans (first : Coincides u v) (second : Coincides v w) : Coincides u w := by
  cases first with
  | number hu hv => exact .number hu (second.real?_eq.symm.trans hv)
  | nan hx hy =>
    cases second with
    | number hv hw =>
      have none := (Double.real?_eq_none_iff.2 hy).symm.trans hv
      cases none
    | nan _ hz => exact .nan hx hz
  | _ => exact second

end Coincides

end Value

namespace RecordKey

theorem ofNumber_of_toWhole? {x : Double} {i : Whole} (h : x.toWhole? = some i) : ofNumber x = integer i := by
  simp only [ofNumber, h]

theorem ofNumber_of_not_isNaN {x : Double} (h : x.toWhole? = none) (isNumber : x.isNaN = false) :
    ofNumber x = number x := by
  cases x with
  | finite | infinite => simp only [ofNumber, h]
  | nan => cases isNumber

theorem ofNumber_of_isNaN {x : Double} (h : x.isNaN = true) : ofNumber x = number (.nan false Double.quiet) := by
  cases x with
  | finite | infinite => cases h
  | nan => rfl

/-- The value that a key is, in the form that all values with this key are brought to. -/
def value : RecordKey → Value
  | text s => .text s
  | integer i => .integer i
  | number x => .number x
  | bool b => .bool b
  | guid g => .guid g
  | dateTime t => .dateTime t
  | date d => .date d

theorem coincides_value_ofNumber (x : Double) : Value.Coincides (.number x) (ofNumber x).value := by
  cases whole : x.toWhole? with
  | some i =>
    rw [ofNumber_of_toWhole? whole]
    exact .number (Double.toWhole?_eq_some_iff.1 whole) rfl
  | none =>
    cases isNaN : x.isNaN with
    | true =>
      rw [ofNumber_of_isNaN isNaN]
      exact .nan isNaN rfl
    | false =>
      rw [ofNumber_of_not_isNaN whole isNaN]
      exact .refl_number x

theorem coincides_value {v : Value} {k : RecordKey} (h : ofValue v = .ok k) : v.Coincides k.value := by
  cases v with
  | null | record | list => cases h
  | number x =>
    cases h
    exact coincides_value_ofNumber x
  | integer i =>
    cases h
    exact .number rfl rfl
  | _ =>
    cases h
    constructor

theorem ofValue_of_real? {v : Value} {i : Whole} (h : v.real? = some i.real) : ofValue v = .ok (integer i) := by
  cases v with
  | integer j =>
    rw [ofValue, Whole.real_injective (Option.some_inj.1 h)]
  | number x =>
    rw [ofValue, ofNumber_of_toWhole? (Double.toWhole?_eq_some_iff.2 h)]
  | _ => cases h

/-- A number makes the same key however it is held. -/
theorem ofValue_eq_of_real? {v w : Value} {r : EReal} (hv : v.real? = some r) (hw : w.real? = some r) :
    ofValue v = ofValue w := by
  by_cases whole : ∃ i : Whole, i.real = r
  · obtain ⟨i, rfl⟩ := whole
    rw [ofValue_of_real? hv, ofValue_of_real? hw]
  · cases v with
    | integer i => exact absurd ⟨i, Option.some_inj.1 hv⟩ whole
    | number x =>
      cases w with
      | integer j => exact absurd ⟨j, Option.some_inj.1 hw⟩ whole
      | number y =>
        have other : x.toWhole? = none := by
          rw [Option.eq_none_iff_forall_ne_some]
          intro i held
          exact whole ⟨i, Option.some_inj.1 ((Double.toWhole?_eq_some_iff.1 held).symm.trans hv)⟩
        rw [Double.eq_of_real?_eq hv hw other]
      | _ => cases hw
    | _ => cases hv

theorem ofValue_eq_of_coincides {v w : Value} (h : v.Coincides w) : ofValue v = ofValue w := by
  cases h with
  | number hv hw => exact ofValue_eq_of_real? hv hw
  | nan hx hy => rw [ofValue, ofValue, ofNumber_of_isNaN hx, ofNumber_of_isNaN hy]
  | _ => rfl

theorem eq_iff_coincides {v w : Value} {k l : RecordKey} (hv : ofValue v = .ok k) (hw : ofValue w = .ok l) :
    k = l ↔ v.Coincides w := by
  constructor
  · rintro rfl
    exact (coincides_value hv).trans (coincides_value hw).symm
  · intro h
    have same := ofValue_eq_of_coincides h
    rw [hv, hw] at same
    exact Except.ok.inj same

/-- The double `2 ^ 53` is the whole number `2 ^ 53`, and not the next one. -/
theorem twoPow_coincides :
    Value.Coincides (.integer ⟨2 ^ 53, by decide, by decide⟩)
        (.number (.finite false ⟨2 ^ 52, 1075, by decide, by decide, Or.inr (Nat.le_refl _)⟩)) ∧
      ¬ Value.Coincides (.integer ⟨2 ^ 53 + 1, by decide, by decide⟩)
        (.number (.finite false ⟨2 ^ 52, 1075, by decide, by decide, Or.inr (Nat.le_refl _)⟩)) := by
  have held : Double.toWhole? (.finite false ⟨2 ^ 52, 1075, by decide, by decide, Or.inr (Nat.le_refl _)⟩) =
      some ⟨2 ^ 53, by decide, by decide⟩ := by decide +kernel
  have key : ofValue (.number (.finite false ⟨2 ^ 52, 1075, by decide, by decide, Or.inr (Nat.le_refl _)⟩)) =
      .ok (integer ⟨2 ^ 53, by decide, by decide⟩) := congrArg Except.ok (ofNumber_of_toWhole? held)
  exact ⟨(eq_iff_coincides rfl key).1 rfl, fun h => absurd ((eq_iff_coincides rfl key).2 h) (by decide)⟩

end RecordKey

end RecordFilter
