import RecordFilter.Number.Whole

set_option autoImplicit false

/-!
# Binary64 numbers

A finite binary64 number is a whole multiple of `2 ^ -1074`, its *unit*, so rounding and comparing need
nothing but whole numbers. An infinity stands where `2 ^ 1024` would be, beyond every finite number.
-/

namespace RecordFilter

/-- The size of a finite number, `significand * 2 ^ scale` units, in its one normal form. -/
structure Magnitude where
  significand : Nat
  scale : Nat
  significand_lt : significand < 2 ^ 53
  scale_le : scale ≤ 2045
  normal : scale = 0 ∨ 2 ^ 52 ≤ significand
deriving DecidableEq

namespace Magnitude

def units (m : Magnitude) : Nat := m.significand * Nat.pow 2 m.scale

def zero : Magnitude := ⟨0, 0, by decide, by decide, .inl rfl⟩

def ofParts? (significand scale : Nat) : Option Magnitude :=
  if h : significand < 2 ^ 53 ∧ scale ≤ 2045 ∧ (scale = 0 ∨ 2 ^ 52 ≤ significand) then
    some ⟨significand, scale, h.1, h.2.1, h.2.2⟩
  else none

/-- The quotient rounded to a whole number, a half going to the even neighbour. -/
def roundDiv (num den : Nat) : Nat :=
  let q := num / den
  let r := num % den
  if den < 2 * r ∨ (den = 2 * r ∧ q % 2 = 1) then q + 1 else q

def nearest? (num den : Nat) : Option Magnitude :=
  let scale := (Nat.log2 (num / den)) - 52
  let significand := roundDiv num (den * Nat.pow 2 scale)
  if significand = 2 ^ 53 then ofParts? (2 ^ 52) (scale + 1) else ofParts? significand scale

end Magnitude

inductive Double where
  | finite (negative : Bool) (size : Magnitude)
  | infinite (negative : Bool)
  /-- The NaNs differ in what their words hold where an infinity has a zero, which is `payload + 1`. -/
  | nan (negative : Bool) (payload : Fin (2 ^ 52 - 1))
deriving DecidableEq

namespace Double

/-- The payload of the NaN that stands for no number in particular, the highest bit alone. -/
def quiet : Fin (2 ^ 52 - 1) := ⟨2 ^ 51 - 1, by decide⟩

def one : Nat := 2 ^ 1074

def beyond : Nat := 2 ^ 2098

def signed (negative : Bool) (n : Nat) : Int := if negative then -(n : Int) else n

def isFinite : Double → Bool
  | finite _ _ => true
  | _ => false

def units? : Double → Option Int
  | finite negative size => some (signed negative size.units)
  | infinite negative => some (signed negative beyond)
  | nan _ _ => none

def ofUnits (negative : Bool) (num den : Nat) : Double :=
  match Magnitude.nearest? num den with
  | some size => finite negative size
  | none => infinite negative

def ofInt (i : Int) : Double := ofUnits (decide (i < 0)) (i.natAbs * one) 1

def toWhole? : Double → Option Whole
  | finite negative size =>
    if size.units % one = 0 then Whole.ofInt? (signed negative (size.units / one)) else none
  | _ => none

/-- The order of two numbers; a NaN is in order with nothing, and the two zeros are equal. -/
def compare? (x y : Double) : Option Ordering :=
  match x.units?, y.units? with
  | some a, some b => some (compare a b)
  | _, _ => none

def signedApart (negative : Bool) (n : Nat) : Int := if negative then -(n : Int) - 1 else n

/-- The place of a double in the total order that tells zeros apart and puts the NaNs at the ends. -/
def rank : Double → Int
  | finite negative size => signedApart negative size.units
  | infinite negative => signedApart negative beyond
  | nan negative payload => signedApart negative (beyond + 1 + payload)

def totalCompare (x y : Double) : Ordering := compare x.rank y.rank

/-- The equality of numbers: the zeros are equal, and a NaN equals nothing. -/
def equal (x y : Double) : Bool := x.compare? y == some .eq

end Double

end RecordFilter
