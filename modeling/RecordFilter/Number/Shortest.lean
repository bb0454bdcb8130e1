import RecordFilter.Number.Double

set_option autoImplicit false

namespace RecordFilter

namespace Magnitude

/-- Compares `d * 10 ^ e` with `quarters / 4` steps of the magnitude, a step being `2 ^ scale` units. -/
def compareDecimal (m : Magnitude) (d : Nat) (e : Int) (quarters : Nat) : Ordering :=
  compare (d * Nat.pow 10 e.toNat * 2 ^ 1076) (quarters * Nat.pow 2 m.scale * Nat.pow 10 (-e).toNat)

/-- Whether `d * 10 ^ e` lies among the reals that round to `m`: half a step to either side, but a quarter of a
step below a power of two, and the ends themselves if the significand is even. -/
def readsBack (m : Magnitude) (d : Nat) (e : Int) : Bool :=
  let narrow := m.significand = 2 ^ 52 ∧ m.scale ≠ 0
  let low := m.compareDecimal d e (4 * m.significand - if narrow then 1 else 2)
  let high := m.compareDecimal d e (4 * m.significand + 2)
  let even := m.significand % 2 == 0
  (low == .gt || (even && low == .eq)) && (high == .lt || (even && high == .eq))

/-- The multiple of `10 ^ e` that reads back as `m`, and of two such neighbours the nearer or else the upper one. -/
def onGrid? (m : Magnitude) (e : Int) : Option Nat :=
  let num := m.units * Nat.pow 10 (-e).toNat
  let den := Nat.pow 10 e.toNat * Double.one
  let d := num / den
  let below := m.readsBack d e
  let above := m.readsBack (d + 1) e
  if below && above then some (if 2 * num < (2 * d + 1) * den then d else d + 1)
  else if below then some d
  else if above then some (d + 1)
  else none

/-- The hit on the coarsest grid of a power of ten from `10 ^ (n - 325)` down to `10 ^ -324`. -/
def coarsest? (m : Magnitude) : Nat → Option (Nat × Int)
  | 0 => none
  | n + 1 =>
    let e : Int := n - 324
    match m.onGrid? e with
    | some d => some (d, e)
    | none => m.coarsest? n

def shortest (m : Magnitude) : Nat × Int :=
  (m.coarsest? 634).getD (m.units * 5 ^ 1074, -1074)

def positional (d : Nat) (e : Int) : List Char :=
  if 0 ≤ e then Number.digits d ++ List.replicate e.toNat '0'
  else
    let places := (-e).toNat
    Number.digits (d / Nat.pow 10 places) ++ '.' :: Number.padded places (d % Nat.pow 10 places)

def text (m : Magnitude) : List Char :=
  if m.significand = 0 then ['0'] else positional m.shortest.1 m.shortest.2

end Magnitude

namespace Double

def withSign (negative : Bool) (cs : List Char) : List Char := if negative then '-' :: cs else cs

def text : Double → List Char
  | finite negative size => withSign negative size.text
  | infinite negative => withSign negative ['i', 'n', 'f']
  | nan _ _ => ['N', 'a', 'N']

end Double

end RecordFilter
