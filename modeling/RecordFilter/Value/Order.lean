import RecordFilter.Value.Basic

set_option autoImplicit false

namespace RecordFilter.Value

def kindRank : Value → Nat
  | null => 0
  | bool _ => 1
  | integer _ | number _ => 2
  | text _ => 3
  | guid _ => 4
  | date _ | dateTime _ => 5
  | list _ => 6
  | record _ => 7

/-- A whole number and a double are compared as doubles, a date and a date-time as date-times. -/
def compare : Value → Value → Ordering
  | integer i, integer j => Ord.compare i.toInt j.toInt
  | number x, number y => x.totalCompare y
  | integer i, number y => (Double.ofInt i.toInt).totalCompare y
  | number x, integer j => x.totalCompare (Double.ofInt j.toInt)
  | text s, text t => Ord.compare s t
  | bool a, bool b => Ord.compare a b
  | guid g, guid h => g.compare h
  | dateTime t, dateTime u => t.compare u
  | date d, date e => d.compare e
  | date d, dateTime u => d.midnight.compare u
  | dateTime t, date e => t.compare e.midnight
  | v, w => Ord.compare v.kindRank w.kindRank

end RecordFilter.Value
