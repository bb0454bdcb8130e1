import Mathlib
import RecordFilter.Proofs.Text.Parts
import RecordFilter.Proofs.Value.Coercion
import RecordFilter.Proofs.Value.Order

set_option autoImplicit false

namespace RecordFilter

theorem DateTime.read?_trim (cs : List Char) : read? (Text.trim cs) = read? cs := by
  simp only [read?, Text.trim_trim]

theorem Date.read?_trim (cs : List Char) : read? (Text.trim cs) = read? cs := by
  simp only [read?, Text.trim_trim, DateTime.read?_trim]

theorem Double.compare?_self {x : Double} (h : x.isFinite = true) : x.compare? x = some .eq := by
  cases x with
  | finite negative size => exact congrArg some (compare_eq_iff_eq.2 rfl)
  | infinite | nan => cases h

namespace Literal

variable {type : DataType} {s : String} {l : Literal}

theorem ofText_eq_ok_iff : ofText type s = .ok l ↔ read? type s = some l := by
  unfold ofText
  cases read? type s <;> simp

theorem exists_ofText_iff : (∃ l, ofText type s = .ok l) ↔ (read? type s).isSome = true := by
  simp only [ofText_eq_ok_iff, Option.isSome_iff_exists]

theorem isSome_readNumber? (cs : List Char) : (readNumber? cs).isSome = (Double.readFinite? cs).isSome := by
  unfold readNumber?
  cases whole : Whole.read? cs with
  | some i =>
    obtain ⟨negative, m, read, -⟩ := Double.exists_readFinite? whole
    rw [read]
    rfl
  | none => exact Option.isSome_map

/-- A text is read as a literal of those data types for whose values it is taken. -/
theorem isSome_read? (type : DataType) (s : String) : (read? type s).isSome = (Value.text s).coerces type := by
  cases type with
  | text => rfl
  | number => exact isSome_readNumber? _
  | boolean | guid => exact Option.isSome_map
  | dateTime =>
    rw [read?, Option.isSome_map, DateTime.read?_trim]
    rfl
  | date =>
    rw [read?, Option.isSome_map, Date.read?_trim]
    rfl

theorem exists_isOf (type : DataType) : ∃ raw l, ofText type raw = .ok l := by
  suffices written : ∃ raw, (read? type raw).isSome = true by
    obtain ⟨raw, h⟩ := written
    exact ⟨raw, exists_ofText_iff.2 h⟩
  cases type with
  | text => exact ⟨"", rfl⟩
  | number => exact ⟨"0", by decide +kernel⟩
  | boolean => exact ⟨"true", by decide +kernel⟩
  | guid => exact ⟨"00000000000000000000000000000000", by decide +kernel⟩
  | dateTime | date => exact ⟨"2000-01-01", by decide +kernel⟩

end Literal

namespace Value

variable {type : DataType} {s : String} {l : Literal}

def MeetsAll (v : Value) (type : DataType) (foldCase : Bool) : Prop :=
  ∀ raw l, Literal.ofText type raw = .ok l → ∃ order, v.compareLiteral? l foldCase = some order

def MeetsNone (v : Value) (type : DataType) (foldCase : Bool) : Prop :=
  ∀ raw l, Literal.ofText type raw = .ok l → v.compareLiteral? l foldCase = none

theorem meetsAll_iff (v : Value) (type : DataType) (foldCase : Bool) :
    v.MeetsAll type foldCase ↔ v.coerces type = true := by
  constructor
  · intro h
    obtain ⟨raw, l, read⟩ := Literal.exists_isOf type
    rw [← v.isSome_compareLiteral? (Literal.isOf_of_ofText read) foldCase]
    exact Option.isSome_iff_exists.2 (h raw l read)
  · intro h raw l read
    rw [← Option.isSome_iff_exists, v.isSome_compareLiteral? (Literal.isOf_of_ofText read), h]

theorem meetsNone_of_not_coerces {v : Value} (h : v.coerces type = false) (foldCase : Bool) :
    v.MeetsNone type foldCase := by
  intro raw l read
  have apart := v.isSome_compareLiteral? (Literal.isOf_of_ofText read) foldCase
  rwa [h, Option.isSome_eq_false_iff, Option.isNone_iff_eq_none] at apart

theorem compareLiteral?_readNumber? (read : Literal.readNumber? (Text.trim s.toList) = some l) (foldCase : Bool) :
    (text s).compareLiteral? l foldCase = some .eq := by
  unfold Literal.readNumber? at read
  cases whole : Whole.read? (Text.trim s.toList) with
  | some i =>
    rw [whole] at read
    cases read
    have taken : (text s).asInteger? = some i := whole
    simp only [compareLiteral?, taken, compare_eq_iff_eq.2]
  | none =>
    rw [whole] at read
    obtain ⟨x, decimal, rfl⟩ := Option.map_eq_some_iff.1 read
    have taken : (text s).asNumber? = some x := decimal
    rw [compareLiteral?, taken]
    exact Double.compare?_self (Double.isFinite_of_readFinite? decimal)

theorem compareLiteral?_self (typed : type ≠ .text) (read : Literal.ofText type s = .ok l) (foldCase : Bool) :
    (text s).compareLiteral? l foldCase = some .eq := by
  rw [Literal.ofText_eq_ok_iff] at read
  cases type with
  | text => exact absurd rfl typed
  | number => exact compareLiteral?_readNumber? read foldCase
  | boolean =>
    obtain ⟨b, own, rfl⟩ := Option.map_eq_some_iff.1 read
    have taken : (text s).asBool? = some b := own
    rw [compareLiteral?, taken]
    cases b <;> rfl
  | guid =>
    obtain ⟨g, own, rfl⟩ := Option.map_eq_some_iff.1 read
    have taken : (text s).asGuid? = some g := own
    rw [compareLiteral?, taken, Option.map_some, g.compare_self]
  | dateTime =>
    obtain ⟨t, own, rfl⟩ := Option.map_eq_some_iff.1 read
    have taken : (text s).asDateTime? = some t := (DateTime.read?_trim _).symm.trans own
    rw [compareLiteral?, taken, Option.map_some, t.compare_self]
  | date =>
    obtain ⟨d, own, rfl⟩ := Option.map_eq_some_iff.1 read
    have taken : (text s).asDate? = some d := (Date.read?_trim _).symm.trans own
    rw [compareLiteral?, taken, Option.map_some, d.compare_self]

theorem compareLiteral?_text_self (s : String) :
    (text s).compareLiteral? (.text s) false = some .eq ∧
      (text s).compareLiteral? (Literal.text s).foldCase true = some .eq :=
  ⟨congrArg some (compare_eq_iff_eq.2 rfl), congrArg some (compare_eq_iff_eq.2 rfl)⟩

/-- A text in a field is in an order with the literals of a data type if and only if it can be read as one of them
itself, to which it is then equal, and else with none of them. As a text it is equal to itself, also after both are
lowercased. -/
theorem compareLiteral?_of_text (s : String) :
    (∀ type foldCase, type ≠ .text →
      ((text s).MeetsAll type foldCase ↔ ∃ l, Literal.ofText type s = .ok l) ∧
        (∀ l, Literal.ofText type s = .ok l → (text s).compareLiteral? l foldCase = some .eq) ∧
        ((¬ ∃ l, Literal.ofText type s = .ok l) → (text s).MeetsNone type foldCase)) ∧
      ∃ l, Literal.ofText .text s = .ok l ∧ (text s).compareLiteral? l false = some .eq ∧
        (text s).compareLiteral? l.foldCase true = some .eq := by
  refine ⟨fun type foldCase typed => ?_, .text s, rfl, compareLiteral?_text_self s⟩
  rw [meetsAll_iff, Literal.exists_ofText_iff, Literal.isSome_read?]
  refine ⟨Iff.rfl, fun l read => compareLiteral?_self typed read foldCase, fun unread => ?_⟩
  exact meetsNone_of_not_coerces (Bool.eq_false_iff.2 unread) foldCase

/-- The text of a whole number with a sign, zeros and blanks, and a text that is a number in no spelling. -/
theorem compareLiteral?_of_text_padded :
    (∃ l, Literal.ofText .number " +0042\t" = .ok l ∧ (text " +0042\t").compareLiteral? l true = some .eq) ∧
      (text "1,5").MeetsNone .number false := by
  have padded := ((compareLiteral?_of_text " +0042\t").1 .number true (by decide)).2.1
  have comma := ((compareLiteral?_of_text "1,5").1 .number false (by decide)).2.2
  have written : ∃ l, Literal.ofText .number " +0042\t" = .ok l := Literal.exists_ofText_iff.2 (by decide +kernel)
  obtain ⟨l, read⟩ := written
  rw [Literal.exists_ofText_iff] at comma
  exact ⟨⟨l, read, padded l read⟩, comma (by decide +kernel)⟩

end Value

end RecordFilter
