import RecordFilter.Error
import RecordFilter.Number.Shortest
import RecordFilter.Value.Basic

set_option autoImplicit false

namespace RecordFilter

inductive Literal where
  | text (s : String)
  | integer (i : Whole)
  | number (x : Double)
  | bool (b : Bool)
  | guid (g : Guid)
  | dateTime (t : DateTime)
  /-- A date is compared with the date of a field, whatever the time of day. -/
  | date (d : Date)

namespace Literal

/-- Reads a number: exactly if it is written as a whole number that is not too large, else as a finite double. -/
def readNumber? (cs : List Char) : Option Literal :=
  match Whole.read? cs with
  | some i => some (integer i)
  | none => (Double.readFinite? cs).map number

def read? (type : DataType) (raw : String) : Option Literal :=
  let cs := Text.trim raw.toList
  match type with
  | .text => some (text raw)
  | .number => readNumber? cs
  | .boolean => (Text.readBool? cs).map bool
  | .guid => (Guid.read? cs).map guid
  | .dateTime => (DateTime.read? cs).map dateTime
  | .date => (Date.read? cs).map date

def ofText (type : DataType) (raw : String) : Except FilterError Literal :=
  match read? type raw with
  | some l => .ok l
  | none => .error (.invalidFormat raw type)

def foldCase : Literal → Literal
  | text s => text (lowercase s)
  | l => l

def quoted (cs : List Char) : List Char :=
  '\'' :: cs.flatMap (fun c => if c = '\'' then ['\'', '\''] else [c]) ++ ['\'']

def bare : Literal → List Char
  | text s => s.toList
  | integer i => i.text
  | number x => x.text
  | bool b => if b then "TRUE".toList else "FALSE".toList
  | guid g => g.text
  | dateTime t => t.text
  | date d => d.text

def shown (l : Literal) : List Char :=
  match l with
  | text _ | guid _ => quoted l.bare
  | dateTime _ => "TIMESTAMP ".toList ++ quoted l.bare
  | date _ => "DATE ".toList ++ quoted l.bare
  | integer _ | number _ | bool _ => l.bare

def isDate : Literal → Bool
  | date _ => true
  | _ => false

/-- The equality of literals, in which a NaN equals nothing. -/
def same : Literal → Literal → Bool
  | text s, text t => s == t
  | integer i, integer j => i == j
  | number x, number y => x.equal y
  | bool a, bool b => a == b
  | guid g, guid h => g == h
  | dateTime t, dateTime u => t == u
  | date d, date e => d == e
  | _, _ => false

end Literal

/-- The order of a field and a literal, after the field is taken for a value of the literal's kind; `foldCase`
lowercases a text field first. A field that is not such a value is in no order with the literal. -/
def Value.compareLiteral? (v : Value) (l : Literal) (foldCase : Bool) : Option Ordering :=
  match l with
  | .text t => v.asText?.map fun s => Ord.compare (if foldCase then lowercase s else s) t
  | .integer i =>
    match v.asInteger? with
    | some w => some (Ord.compare w.toInt i.toInt)
    | none => v.asNumber?.bind fun x => x.compare? (Double.ofInt i.toInt)
  | .number y => v.asNumber?.bind fun x => x.compare? y
  | .bool b => v.asBool?.map fun a => Ord.compare a b
  | .guid h => v.asGuid?.map fun g => g.compare h
  | .dateTime u => v.asDateTime?.map fun t => t.compare u
  | .date e => v.asDate?.map fun d => d.compare e

end RecordFilter
