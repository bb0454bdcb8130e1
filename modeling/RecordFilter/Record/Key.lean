import RecordFilter.Error
import RecordFilter.Record.Basic
import RecordFilter.Value.Listing

set_option autoImplicit false

namespace RecordFilter

inductive RecordKey where
  | text (s : String)
  | integer (i : Whole)
  /-- A number that is not whole or too large, or the one NaN that stands for all. -/
  | number (x : Double)
  | bool (b : Bool)
  | guid (g : Guid)
  | dateTime (t : DateTime)
  | date (d : Date)
deriving DecidableEq

namespace RecordKey

def ofNumber (x : Double) : RecordKey :=
  match x.toWhole? with
  | some i => integer i
  | none =>
    match x with
    | .nan _ _ => number (.nan false Double.quiet)
    | x => number x

def ofValue : Value → Except FilterError RecordKey
  | .text s => .ok (text s)
  | .integer i => .ok (integer i)
  | .number x => .ok (ofNumber x)
  | .bool b => .ok (bool b)
  | .guid g => .ok (guid g)
  | .dateTime t => .ok (dateTime t)
  | .date d => .ok (date d)
  | v => .error (.invalidRecordKey v.listing)

def of {α : Type} [HasFields α] (field : FieldRef) (a : α) : Except FilterError RecordKey :=
  ofValue ((scope a).follow field)

end RecordKey

end RecordFilter
