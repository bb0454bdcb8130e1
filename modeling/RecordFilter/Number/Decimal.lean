import RecordFilter.Number.Double

set_option autoImplicit false

namespace RecordFilter

structure Decimal where
  negative : Bool
  digits : List Char
  exponent : Int

namespace Decimal

def readExponent? : List Char → Option Int
  | [] => some 0
  | c :: cs => if c = 'e' ∨ c = 'E' then Number.readInt? cs else none

def readUnsigned? (negative : Bool) (cs : List Char) : Option Decimal :=
  let whole := cs.takeWhile Char.isDigit
  let rest := cs.dropWhile Char.isDigit
  let (fraction, rest) :=
    match rest with
    | '.' :: r => (r.takeWhile Char.isDigit, r.dropWhile Char.isDigit)
    | r => ([], r)
  if whole.isEmpty && fraction.isEmpty then none
  else (readExponent? rest).map fun e => ⟨negative, whole ++ fraction, e - fraction.length⟩

/-- The double nearest to a decimal. A decimal with its leading digit far outside the range of doubles is not
computed: it overflows, or it is less than half of the least double. -/
def toDouble (d : Decimal) : Double :=
  let significant := d.digits.dropWhile (· == '0')
  let leading : Int := significant.length + d.exponent
  if significant.isEmpty || leading < -330 then .finite d.negative .zero
  else if 310 < leading then .infinite d.negative
  else
    Double.ofUnits d.negative (Number.ofDigits significant * Nat.pow 10 d.exponent.toNat * Double.one)
      (Nat.pow 10 (-d.exponent).toNat)

end Decimal

namespace Double

def readUnsigned? (negative : Bool) (cs : List Char) : Option Double :=
  let name := cs.map Char.toLower
  if name = ['n', 'a', 'n'] then some (.nan negative quiet)
  else if name = ['i', 'n', 'f'] ∨ name = ['i', 'n', 'f', 'i', 'n', 'i', 't', 'y'] then some (.infinite negative)
  else (Decimal.readUnsigned? negative cs).map Decimal.toDouble

def read? : List Char → Option Double
  | '-' :: cs => readUnsigned? true cs
  | '+' :: cs => readUnsigned? false cs
  | cs => readUnsigned? false cs

def readFinite? (cs : List Char) : Option Double := (read? cs).filter isFinite

end Double

end RecordFilter
