import RecordFilter.Number.Digits
import RecordFilter.Number.Double

set_option autoImplicit false

namespace RecordFilter

namespace Number

/-- Appends digits to a number as long as it fits into a 64-bit word; the number, and the digits left over. -/
def fill (n : Nat) : List Char → Nat × List Char
  | [] => (n, [])
  | c :: cs => if 10 * n + digitValue c < 2 ^ 64 then fill (10 * n + digitValue c) cs else (n, c :: cs)

end Number

namespace Magnitude

def roundNat (n : Nat) : Nat :=
  let unit := Nat.pow 2 (Nat.log2 n - 52)
  roundDiv n unit * unit

/-- About `n * 10 ^ exponent`, if it is not beyond the largest magnitude. The powers end at `10 ^ 308`: a smaller number
is divided twice, and after two divisions by the last power a word is zero. -/
def scaled? (n : Nat) (exponent : Int) : Option Magnitude :=
  let size := roundNat n * Double.one
  let places := (-exponent).toNat
  if n = 0 then some zero
  else if 308 < exponent then none
  else if 0 ≤ exponent then nearest? (size * roundNat (Nat.pow 10 exponent.toNat)) 1
  else if places ≤ 308 then nearest? size (roundNat (Nat.pow 10 places))
  else if places ≤ 616 then
    (nearest? size (roundNat (10 ^ 308))).bind fun m => nearest? m.units (roundNat (Nat.pow 10 (places - 308)))
  else some zero

end Magnitude

namespace Double

/-- The double for `whole`, a point, `fraction` and `exponent`. A digit of the whole part that does not fit into the
word still counts as a place, and one of the fraction does not. -/
def scaled (negative : Bool) (whole fraction : List Char) (exponent : Int) : Double :=
  let (n, dropped) := Number.fill 0 whole
  let (n, unread) := Number.fill n fraction
  match Magnitude.scaled? n (exponent + dropped.length - (fraction.length - unread.length : Nat)) with
  | some size => finite negative size
  | none => infinite negative

end Double

end RecordFilter
