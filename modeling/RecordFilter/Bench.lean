import RecordFilter.Json.Plain
import RecordFilter.Json.Printer
import RecordFilter.Json.Reader

set_option autoImplicit false

namespace RecordFilter.Bench

def insert (name : String) (value : Json) : List (String × Json) → List (String × Json)
  | [] => [(name, value)]
  | (k, v) :: ms =>
    match compare name k with
    | .lt => (name, value) :: (k, v) :: ms
    | .eq => (name, value) :: ms
    | .gt => (k, v) :: insert name value ms

/-- The line of a record; of several members with one name the last counts. -/
def line (component op : String) (counts : List (String × Nat)) : String :=
  let start := insert "op" (.ofString op) (insert "bench" (.ofString component) [])
  (Json.ofMembers (counts.foldl (fun ms (name, n) => insert name (.ofNat n) ms) start)).text

def maxNesting : Nat := 127

def record? (component line : String) : Option Json :=
  match (Json.ofText? line).bind (Json.plain? maxNesting) with
  | some (.object members) =>
    match Json.get? (.object members) "bench" with
    | some (.string (some s)) => if s = component then some (.object members) else none
    | _ => none
  | _ => none

end RecordFilter.Bench
