import RecordFilter.Compiler.Group
import RecordFilter.Segment.Compiled

set_option autoImplicit false

namespace RecordFilter

namespace Compiler

/-- The combinators of the sets after the first, each of which has to have one. -/
def laterCombinators : List ConditionSet → Except FilterError (List (Option Combinator))
  | [] => .ok []
  | set :: sets =>
    match set.combinator with
    | none => .error (.requiredIntersection set.sort)
    | some c => (laterCombinators sets).map (some c :: ·)

/-- The combinators of all sets; that of the first does not count. -/
def combinators : List ConditionSet → Except FilterError (List (Option Combinator))
  | [] => .ok []
  | _ :: sets => (laterCombinators sets).map (none :: ·)

def compileSet (k : Compiler) (set : ConditionSet) (combinator : Option Combinator) :
    Except FilterError CompiledSet :=
  (k.compileGroup set.group).map fun p => ⟨set.sort, combinator, p⟩

def compileOrder (k : Compiler) (spec : OrderSpec) : Except FilterError OrderKey := do
  let path ← k.schema.resolve spec.field
  if path.isExistential then .error (.invalidField spec.field)
  else .ok ⟨path.names, spec.direction⟩

/-- The field that identifies a record, which may not lie inside a collection. -/
def recordKeyField (k : Compiler) : Except FilterError FieldRef :=
  match k.schema.key with
  | none => .error (.missingRecordKey k.schema.name)
  | some key => do
    let path ← k.schema.resolve key
    if path.isExistential then .error (.invalidRecordKey key) else .ok path.names

def compilePage (k : Compiler) : Option PageSpec → Except FilterError (Option PageWindow)
  | none => .ok none
  | some spec => (PageWindow.ofSpec spec k.config.maxPageSize).map some

def compileSegment (k : Compiler) (segment : Segment) : Except FilterError CompiledSegment :=
  if ¬ HasUniqueSorts ConditionSet.sort segment.sets then .error .setsUniqueSort
  else do
    let ordered := sortByKey ConditionSet.sort segment.sets
    let combinators ← combinators ordered
    let sets ← (ordered.zip combinators).mapM fun (set, c) => k.compileSet set c
    let orders ← (sortByKey OrderSpec.sort (segment.orders.getD [])).mapM k.compileOrder
    let page ← k.compilePage segment.page
    let key ← if 1 < sets.length then k.recordKeyField.map some else .ok none
    .ok ⟨sets, orders, page, key⟩

end Compiler

end RecordFilter
