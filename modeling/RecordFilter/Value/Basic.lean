import RecordFilter.Calendar.Reading
import RecordFilter.Guid
import RecordFilter.Json.Basic
import RecordFilter.Number.Decimal
import RecordFilter.Text.Lowercase

set_option autoImplicit false

namespace RecordFilter

inductive Value where
  | null
  | text (s : String)
  | integer (i : Whole)
  | number (x : Double)
  | bool (b : Bool)
  | guid (g : Guid)
  | dateTime (t : DateTime)
  | date (d : Date)
  | record (fields : List (String × Value))
  | list (items : List Value)

abbrev Record := List (String × Value)

def Record.field (r : Record) (name : String) : Value := (r.lookup name).getD .null

namespace Text

def readBool? (cs : List Char) : Option Bool :=
  match String.ofList (asciiLowercase cs) with
  | "true" => some true
  | "false" => some false
  | _ => none

end Text

namespace Value

def isNull : Value → Bool
  | null => true
  | _ => false

def asText? : Value → Option String
  | text s => some s
  | _ => none

def asNumber? : Value → Option Double
  | integer i => some (Double.ofInt i.toInt)
  | number x => some x
  | text s => Double.readFinite? (Text.trim s.toList)
  | _ => none

def asInteger? : Value → Option Whole
  | integer i => some i
  | number x => x.toWhole?
  | text s => Whole.read? (Text.trim s.toList)
  | _ => none

def asBool? : Value → Option Bool
  | bool b => some b
  | text s => Text.readBool? (Text.trim s.toList)
  | _ => none

def asGuid? : Value → Option Guid
  | guid g => some g
  | text s => Guid.read? (Text.trim s.toList)
  | _ => none

def asDateTime? : Value → Option DateTime
  | dateTime t => some t
  | date d => some d.midnight
  | text s => DateTime.read? s.toList
  | _ => none

def asDate? : Value → Option Date
  | date d => some d
  | dateTime t => some t.date
  | text s => Date.read? s.toList
  | _ => none

def get (v : Value) (name : String) : Value :=
  match v with
  | record fields => Record.field fields name
  | _ => null

def follow (v : Value) (path : List String) : Value := path.foldl get v

/-- A whole number without point and exponent stays exact in the range of 64-bit words, signed or not. -/
def ofJsonNumber (n : Json.Number) : Value :=
  match n.toWord?.bind Whole.ofInt? with
  | some i => integer i
  | none => number n.toDouble

mutual

def ofJson : Json → Value
  | .null => null
  | .bool b => bool b
  | .number n => ofJsonNumber n
  | .string s => text (s.getD "")
  | .array items => list (ofJsonItems items)
  | .object members => record (ofJsonMembers members [])

def ofJsonItems : List Json → List Value
  | [] => []
  | j :: js => ofJson j :: ofJsonItems js

/-- The members of an object, of which a later one hides those before it with its name. -/
def ofJsonMembers : List (Json.Text × Json) → Record → Record
  | [], r => r
  | (k, j) :: ms, r => ofJsonMembers ms ((k.getD "", ofJson j) :: r)

end

end Value

def Record.ofJson (j : Json) : Record :=
  match Value.ofJson j with
  | .record fields => fields
  | _ => []

end RecordFilter
