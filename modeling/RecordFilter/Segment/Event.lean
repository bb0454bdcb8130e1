import RecordFilter.Bench

set_option autoImplicit false

namespace RecordFilter

inductive RunEvent where
  /-- A set was folded in and left that many records. -/
  | folded (sort : Int64) (records : Nat)
  /-- The run of that many sets ended with a page of `data` records out of `total`. -/
  | finished (sets total data : Nat)
deriving DecidableEq

def RunEvent.line (elapsed : Nat) : RunEvent → String
  | folded sort records => s!"after condition set {sort.toInt}: {records} records"
  | finished sets total data =>
    Bench.line "segment" "execute"
      [("sets", sets), ("duration_ms", elapsed), ("total_count", total), ("result_count", data)]

end RecordFilter
