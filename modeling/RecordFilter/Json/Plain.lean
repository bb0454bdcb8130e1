import RecordFilter.Json.Basic
import RecordFilter.Number.Shortest

set_option autoImplicit false

namespace RecordFilter.Json

namespace Number

/-- The shortest decimal of a double, never in the form of a whole number. -/
def ofMagnitude (negative : Bool) (m : Magnitude) : Number :=
  if m.significand = 0 then ⟨negative, ['0'], ['0'], none⟩
  else ⟨negative, RecordFilter.Number.digits m.shortest.1, [], some m.shortest.2⟩

/-- A word stays exact, and any other number becomes its double, if that is finite. -/
def plain? (n : Number) : Option Number :=
  match n.toWord? with
  | some i => some (ofInt i)
  | none =>
    match n.toDouble with
    | .finite negative m => some (ofMagnitude negative m)
    | _ => none

end Number

def lastOfEach : List (Text × Json) → List (Text × Json)
  | [] => []
  | m :: ms => if ms.any fun n => n.1 == m.1 then lastOfEach ms else m :: lastOfEach ms

mutual

def plain? (room : Nat) : Json → Option Json
  | null => some null
  | bool b => some (bool b)
  | number n => n.plain?.map number
  | string s => s.map ofString
  | array items =>
    match room with
    | 0 => none
    | room + 1 => (plainItems? room items).map array
  | object members =>
    match room with
    | 0 => none
    | room + 1 => (plainMembers? room members).map fun ms => object (lastOfEach ms)

def plainItems? (room : Nat) : List Json → Option (List Json)
  | [] => some []
  | j :: js =>
    match plain? room j, plainItems? room js with
    | some j, some js => some (j :: js)
    | _, _ => none

def plainMembers? (room : Nat) : List (Text × Json) → Option (List (Text × Json))
  | [] => some []
  | (k, j) :: ms =>
    match k, plain? room j, plainMembers? room ms with
    | some k, some j, some ms => some ((some k, j) :: ms)
    | _, _, _ => none

end

end RecordFilter.Json
