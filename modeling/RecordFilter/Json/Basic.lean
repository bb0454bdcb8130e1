import RecordFilter.Number.Scaled

set_option autoImplicit false

namespace RecordFilter

namespace Json

/-- The text of a string or a name; `none` if it has an escape for half a surrogate pair, which no text holds. -/
abbrev Text := Option String

structure Number where
  negative : Bool
  whole : List Char
  /-- The digits after the point; none if there is no point. -/
  fraction : List Char
  exponent : Option Int

namespace Number

def ofInt (i : Int) : Number := ⟨decide (i < 0), RecordFilter.Number.digits i.natAbs, [], none⟩

/-- The whole number that is written without point or exponent; `-0` is not one. -/
def toInt? (n : Number) : Option Int :=
  if n.fraction.isEmpty && n.exponent.isNone && !(n.negative && n.whole == ['0']) then
    let size := RecordFilter.Number.ofDigits n.whole
    some (if n.negative then -(size : Int) else size)
  else none

def toWord? (n : Number) : Option Int := n.toInt?.filter fun i => decide (-2 ^ 63 ≤ i ∧ i < 2 ^ 64)

def toInt64? (n : Number) : Option Int64 := do
  let i ← n.toInt?
  if -2 ^ 63 ≤ i ∧ i < 2 ^ 63 then some (Int64.ofInt i) else none

def toDouble (n : Number) : Double := Double.scaled n.negative n.whole n.fraction (n.exponent.getD 0)

end Number

end Json

inductive Json where
  | null
  | bool (b : Bool)
  | number (n : Json.Number)
  | string (s : Json.Text)
  | array (items : List Json)
  | object (members : List (Json.Text × Json))

namespace Json

def ofString (s : String) : Json := string (some s)

def ofInt (i : Int) : Json := number (.ofInt i)

def ofNat (n : Nat) : Json := ofInt n

def ofMembers (members : List (String × Json)) : Json := object (members.map fun (k, v) => (some k, v))

/-- The value of the last member of that name. -/
def get? (j : Json) (name : String) : Option Json :=
  match j with
  | object members => (members.reverse.find? fun m => m.1 == some name).map (·.2)
  | _ => none

end Json

end RecordFilter
