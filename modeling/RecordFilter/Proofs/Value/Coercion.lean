import RecordFilter.Literal
import RecordFilter.Proofs.Number.Reading

set_option autoImplicit false

namespace RecordFilter

namespace Double

def isNaN : Double → Bool
  | nan _ _ => true
  | _ => false

theorem isSome_units? (x : Double) : x.units?.isSome = !x.isNaN := by
  cases x <;> rfl

theorem isSome_compare? (x y : Double) : (x.compare? y).isSome = (!x.isNaN && !y.isNaN) := by
  rw [← isSome_units?, ← isSome_units?]
  unfold compare?
  cases x.units? <;> cases y.units? <;> rfl

theorem isNaN_ofUnits (negative : Bool) (num den : Nat) : (ofUnits negative num den).isNaN = false := by
  unfold ofUnits
  split <;> rfl

theorem isNaN_ofInt (i : Int) : (ofInt i).isNaN = false := isNaN_ofUnits _ _ _

theorem isNaN_of_isFinite {x : Double} (h : x.isFinite = true) : x.isNaN = false := by
  cases x with
  | finite => rfl
  | infinite | nan => cases h

theorem isFinite_of_readFinite? {cs : List Char} {x : Double} (h : readFinite? cs = some x) : x.isFinite = true :=
  (Option.filter_eq_some_iff.1 h).2

theorem isNaN_of_toWhole? {x : Double} {w : Whole} (h : x.toWhole? = some w) : x.isNaN = false := by
  cases x with
  | finite | infinite => rfl
  | nan => cases h

end Double

/-- Whether a value is of the data type, or is a text in which one of the data type is written. Every date is taken
for a date-time and the other way round, but no number for anything else. -/
def Value.coerces (v : Value) : DataType → Bool
  | .text => v.asText?.isSome
  | .number =>
    match v with
    | .integer _ => true
    | .number x => !x.isNaN
    | .text s => (Double.readFinite? (Text.trim s.toList)).isSome
    | _ => false
  | .boolean => v.asBool?.isSome
  | .guid => v.asGuid?.isSome
  | .dateTime => v.asDateTime?.isSome
  | .date => v.asDate?.isSome

namespace Literal

/-- The literals of a data type. A number that is not whole is finite. -/
inductive IsOf : DataType → Literal → Prop
  | text (s : String) : IsOf .text (.text s)
  | integer (i : Whole) : IsOf .number (.integer i)
  | number {x : Double} (finite : x.isFinite = true) : IsOf .number (.number x)
  | bool (b : Bool) : IsOf .boolean (.bool b)
  | guid (g : Guid) : IsOf .guid (.guid g)
  | dateTime (t : DateTime) : IsOf .dateTime (.dateTime t)
  | date (d : Date) : IsOf .date (.date d)

theorem isOf_of_readNumber? {cs : List Char} {l : Literal} (h : readNumber? cs = some l) : l.IsOf .number := by
  unfold readNumber? at h
  split at h
  · cases h
    exact .integer _
  · obtain ⟨x, read, rfl⟩ := Option.map_eq_some_iff.1 h
    exact .number (Double.isFinite_of_readFinite? read)

theorem isOf_of_ofText {type : DataType} {raw : String} {l : Literal} (h : ofText type raw = .ok l) : l.IsOf type := by
  have read : read? type raw = some l := by
    unfold ofText at h
    split at h
    · cases h
      assumption
    · cases h
  cases type with
  | text =>
    cases read
    exact .text raw
  | number => exact isOf_of_readNumber? read
  | boolean =>
    obtain ⟨b, -, rfl⟩ := Option.map_eq_some_iff.1 read
    exact .bool b
  | date =>
    obtain ⟨d, -, rfl⟩ := Option.map_eq_some_iff.1 read
    exact .date d
  | dateTime =>
    obtain ⟨t, -, rfl⟩ := Option.map_eq_some_iff.1 read
    exact .dateTime t
  | guid =>
    obtain ⟨g, -, rfl⟩ := Option.map_eq_some_iff.1 read
    exact .guid g

theorem IsOf.foldCase {type : DataType} {l : Literal} (h : l.IsOf type) : l.foldCase.IsOf type := by
  cases h with
  | text s => exact .text (lowercase s)
  | number finite => exact .number finite
  | _ => constructor

end Literal

namespace Value

theorem coerces_number (v : Value) : v.coerces .number = v.asNumber?.any fun x => !x.isNaN := by
  cases v with
  | integer i =>
    rw [asNumber?, Option.any_some, Double.isNaN_ofInt]
    rfl
  | text s =>
    rw [asNumber?, coerces]
    cases read : Double.readFinite? (Text.trim s.toList) with
    | some x => simp [Double.isNaN_of_isFinite (Double.isFinite_of_readFinite? read)]
    | none => rfl
  | _ => rfl

theorem coerces_number_of_asInteger? {v : Value} {w : Whole} (h : v.asInteger? = some w) :
    v.coerces .number = true := by
  cases v with
  | integer i => rfl
  | number x => simp [coerces, Double.isNaN_of_toWhole? h]
  | text s =>
    obtain ⟨negative, m, read, -⟩ := Double.exists_readFinite? h
    simp [coerces, read]
  | _ => cases h

theorem isSome_bind_compare? (v : Value) {y : Double} (number : y.isNaN = false) :
    (v.asNumber?.bind fun x => x.compare? y).isSome = v.coerces .number := by
  rw [coerces_number]
  cases v.asNumber? with
  | none => rfl
  | some x => simp [Double.isSome_compare?, number]

/-- A value is in an order with a literal if and only if it can be taken for a value of the literal's type. -/
theorem isSome_compareLiteral? (v : Value) {type : DataType} {l : Literal} (h : l.IsOf type) (foldCase : Bool) :
    (v.compareLiteral? l foldCase).isSome = v.coerces type := by
  cases h with
  | integer i =>
    rw [compareLiteral?]
    cases whole : v.asInteger? with
    | some w => simp [coerces_number_of_asInteger? whole]
    | none => exact isSome_bind_compare? v (Double.isNaN_ofInt i.toInt)
  | number finite => exact isSome_bind_compare? v (Double.isNaN_of_isFinite finite)
  | _ => exact Option.isSome_map

end Value

end RecordFilter
