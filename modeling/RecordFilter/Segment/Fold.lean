import RecordFilter.Record.Key
import RecordFilter.Segment.Compiled
import RecordFilter.Segment.Event

set_option autoImplicit false

namespace RecordFilter

namespace Fold

variable {α : Type} [HasFields α]

/-- The running result, its records with their keys, and the keys whose records are turned away. -/
structure Running (α : Type) where
  records : List (RecordKey × α)
  seen : List RecordKey

def keys (records : List (RecordKey × α)) : List RecordKey := records.map Prod.fst

namespace Running

def insert (r : Running α) (key : RecordKey) (a : α) : Running α :=
  if key ∈ r.seen then r else ⟨r.records ++ [(key, a)], key :: r.seen⟩

def filter (r : Running α) (keep : RecordKey → Bool) : Running α :=
  { r with records := r.records.filter fun x => keep x.1 }

def refresh (r : Running α) : Running α := ⟨r.records, keys r.records⟩

end Running

def insertAll (field : FieldRef) (r : Running α) : List α → Except FilterError (Running α)
  | [] => .ok r
  | a :: as => do
    let key ← RecordKey.of field a
    insertAll field (r.insert key a) as

def combine (field : FieldRef) (r : Running α) (set : CompiledSet) (records : List α) :
    Except FilterError (Running α) :=
  match set.combinator with
  | some .union => insertAll field r records
  | some .intersect => (records.mapM (RecordKey.of field)).map fun ks => r.filter fun k => decide (k ∈ ks)
  | some .except => (records.mapM (RecordKey.of field)).map fun ks => r.filter fun k => decide (k ∉ ks)
  | none => .error (.requiredIntersection set.sort)

def step (field : FieldRef) (r : Running α) (set : CompiledSet) (records : List α) :
    Except FilterError (Running α) :=
  (combine field r set records).map Running.refresh

def steps (field : FieldRef) (r : Running α) :
    List (CompiledSet × List α) → List RunEvent × Except FilterError (Running α)
  | [] => ([], .ok r)
  | (set, records) :: rest =>
    match step field r set records with
    | .error e => ([], .error e)
    | .ok next =>
      let (events, result) := steps field next rest
      (.folded set.sort next.records.length :: events, result)

/-- Combines the records of all sets. Without a key there is only the first set to take. -/
def run (key : Option FieldRef) : List (CompiledSet × List α) → List RunEvent × Except FilterError (List α)
  | [] => ([], .ok [])
  | (_, first) :: rest =>
    match key with
    | none => ([], .ok first)
    | some field =>
      match insertAll field ⟨[], []⟩ first with
      | .error e => ([], .error e)
      | .ok r =>
        let (events, result) := steps field r rest
        (events, result.map fun r => r.records.map Prod.snd)

end Fold

end RecordFilter
