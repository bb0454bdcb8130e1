import RecordFilter.Compiler.Segment
import RecordFilter.Segment.Run

set_option autoImplicit false

namespace RecordFilter

inductive Note where
  | resolved (path canonical : String)
  | emptyGroup (sort : Int64) (level : Nat)
  | discarded (combinator : Combinator) (sort : Int64)
  | clamped (size most : Nat)
  | matched (sort : Int64) (records : Nat)
deriving DecidableEq

namespace Note

def level : Note → String
  | resolved _ _ | matched _ _ => "TRACE"
  | emptyGroup _ _ | discarded _ _ => "DEBUG"
  | clamped _ _ => "WARN"

def message : Note → String
  | resolved path canonical => s!"resolved field path '{path}' to '{canonical}'"
  | emptyGroup sort level => s!"condition group {sort.toInt} at depth {level} is empty"
  | discarded combinator sort => s!"discarding {combinator.name} on first condition set {sort.toInt}"
  | clamped size most => s!"page size {size} clamped to {most}"
  | matched sort records => s!"condition set {sort.toInt} matched {records} records"

def text (n : Note) : String := n.level ++ " " ++ n.message

end Note

namespace Compiler

def pathNotes (k : Compiler) (path : String) : List Note :=
  match k.schema.resolve path with
  | .ok p => [.resolved path p.canonical]
  | .error _ => []

def conditionNotes (k : Compiler) (c : Condition) : List Note := k.pathNotes c.field

mutual

def groupNotesAt (k : Compiler) (level : Nat) : ConditionGroup → List Note
  | ⟨sort, _, conditions, subgroups⟩ =>
    (sortByKey Condition.sort conditions).flatMap k.conditionNotes ++
      (sortByKey Prod.fst (subgroupNotes k (level + 1) subgroups)).flatMap Prod.snd ++
      (if conditions.isEmpty && ConditionGroup.allVacuous subgroups then [.emptyGroup sort level] else [])

def subgroupNotes (k : Compiler) (level : Nat) : List ConditionGroup → List (Int64 × List Note)
  | [] => []
  | g :: gs => (g.sort, groupNotesAt k level g) :: subgroupNotes k level gs

end

def groupNotes (k : Compiler) (g : ConditionGroup) : List Note := k.groupNotesAt 1 g

def discardNotes : List ConditionSet → List Note
  | [] => []
  | set :: _ => (set.combinator.map fun c => .discarded c set.sort).toList

def pageNotes (k : Compiler) : Option PageSpec → List Note
  | none => []
  | some spec =>
    match Word.ofInt64? spec.size, k.config.maxPageSize with
    | some size, some most => if most < size then [.clamped size most] else []
    | _, _ => []

def keyNotes (k : Compiler) : Option String → List Note
  | none => []
  | some key => k.pathNotes key

def segmentNotes (k : Compiler) (segment : Segment) : List Note :=
  let ordered := sortByKey ConditionSet.sort segment.sets
  discardNotes ordered ++ ordered.flatMap (fun set => k.groupNotes set.group) ++
    (sortByKey OrderSpec.sort (segment.orders.getD [])).flatMap (fun spec => k.pathNotes spec.field) ++
    k.pageNotes segment.page ++ (if 1 < ordered.length then k.keyNotes k.schema.key else [])

end Compiler

namespace Run

def notes {σ α : Type} (r : Run σ α) : List Note := r.matched.map fun (sort, n) => .matched sort n

end Run

end RecordFilter
