import RecordFilter.Condition.Literals
import RecordFilter.Condition.Predicate
import RecordFilter.Config.Basic

set_option autoImplicit false

/-!
# Compiling groups

A group compiles to the predicates of its conditions and then of its subgroups, both in the order of their sort
values, joined by its connector. A group with no condition anywhere in it has no predicate, and adds nothing to the
group around it; as a whole filter it matches everything.
-/

namespace RecordFilter

def sortByKey {α : Type} (key : α → Int64) (items : List α) : List α :=
  items.mergeSort fun a b => (key a).toInt ≤ (key b).toInt

def HasUniqueSorts {α : Type} (key : α → Int64) (items : List α) : Prop := (items.map key).Nodup

instance {α : Type} (key : α → Int64) (items : List α) : Decidable (HasUniqueSorts key items) :=
  inferInstanceAs (Decidable (List.Nodup _))

structure Compiler where
  schema : Schema
  config : Config

namespace Compiler

def normalize (k : Compiler) (c : Condition) : Except FilterError Condition :=
  (k.schema.resolve c.field).map fun path => { c with field := path.canonical }

def compileCondition (k : Compiler) (c : Condition) : Except FilterError Predicate := do
  let path ← k.schema.resolve c.field
  let ls ← c.literals k.config.maxInValues
  c.predicate path ls

def join : Connector → List Predicate → Option Predicate
  | _, [] => none
  | .and, ps => some (.conjunction ps)
  | .or, ps => some (.disjunction ps)

mutual

/-- Compiles a group at a level, the outermost being level 1; nothing comes of a group without conditions. -/
def compileGroupAt (k : Compiler) (level : Nat) : ConditionGroup → Except FilterError (Option Predicate)
  | ⟨_, connector, conditions, subgroups⟩ =>
    if k.config.maxGroupDepth < level then .error (.nestingTooDeep k.config.maxGroupDepth)
    else if ¬ HasUniqueSorts Condition.sort conditions then .error .conditionsUniqueSort
    else if ¬ HasUniqueSorts ConditionGroup.sort subgroups then .error .subgroupsUniqueSort
    else do
      let own ← (sortByKey Condition.sort conditions).mapM k.compileCondition
      let nested ← (sortByKey Prod.fst (compileSubgroups k (level + 1) subgroups)).mapM Prod.snd
      .ok (join connector (own ++ nested.filterMap id))

def compileSubgroups (k : Compiler) (level : Nat) :
    List ConditionGroup → List (Int64 × Except FilterError (Option Predicate))
  | [] => []
  | g :: gs => (g.sort, compileGroupAt k level g) :: compileSubgroups k level gs

end

def compileGroup (k : Compiler) (g : ConditionGroup) : Except FilterError Predicate :=
  (k.compileGroupAt 1 g).map fun p => p.getD .always

end Compiler

end RecordFilter
