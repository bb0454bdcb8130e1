import RecordFilter.Spec.Vocabulary

set_option autoImplicit false

namespace RecordFilter

structure Condition where
  sort : Int64
  field : String
  dataType : DataType
  operator : Operator
  values : List String
deriving DecidableEq

structure ConditionGroup where
  sort : Int64
  connector : Connector
  conditions : List Condition
  subgroups : List ConditionGroup

namespace ConditionGroup

def empty : ConditionGroup := ⟨0, .and, [], []⟩

def isEmpty (g : ConditionGroup) : Bool := g.conditions.isEmpty && g.subgroups.isEmpty

mutual

/-- Whether there is no condition in the group or anywhere below it. -/
def isVacuous : ConditionGroup → Bool
  | ⟨_, _, conditions, subgroups⟩ => conditions.isEmpty && allVacuous subgroups

def allVacuous : List ConditionGroup → Bool
  | [] => true
  | g :: gs => isVacuous g && allVacuous gs

end

def withCondition (g : ConditionGroup) (c : Condition) : ConditionGroup :=
  { g with conditions := g.conditions ++ [c] }

def withSubgroup (g sub : ConditionGroup) : ConditionGroup := { g with subgroups := g.subgroups ++ [sub] }

mutual

def decEq : (a b : ConditionGroup) → Decidable (a = b)
  | ⟨s, c, cs, gs⟩, ⟨t, d, ds, hs⟩ =>
    match decEqList gs hs with
    | .isTrue hg =>
      if h : s = t ∧ c = d ∧ cs = ds then .isTrue (by obtain ⟨rfl, rfl, rfl⟩ := h; rw [hg])
      else .isFalse fun e => h (by injection e with h1 h2 h3; exact ⟨h1, h2, h3⟩)
    | .isFalse hg => .isFalse fun e => hg (by injection e)

def decEqList : (gs hs : List ConditionGroup) → Decidable (gs = hs)
  | [], [] => .isTrue rfl
  | [], _ :: _ => .isFalse nofun
  | _ :: _, [] => .isFalse nofun
  | g :: gs, h :: hs =>
    match decEq g h, decEqList gs hs with
    | .isTrue e, .isTrue es => .isTrue (by rw [e, es])
    | .isFalse n, _ => .isFalse fun e => n (by injection e)
    | _, .isFalse n => .isFalse fun e => n (by injection e)

end

instance : DecidableEq ConditionGroup := decEq

end ConditionGroup

structure ConditionSet where
  sort : Int64
  combinator : Option Combinator
  group : ConditionGroup
deriving DecidableEq

structure OrderSpec where
  sort : Int64
  field : String
  direction : Direction
deriving DecidableEq

structure PageSpec where
  number : Int64
  size : Int64
deriving DecidableEq

structure Segment where
  sets : List ConditionSet
  orders : Option (List OrderSpec)
  page : Option PageSpec
deriving DecidableEq

namespace Segment

def empty : Segment := ⟨[], none, none⟩

def withSet (s : Segment) (set : ConditionSet) : Segment := { s with sets := s.sets ++ [set] }

def orderBy (s : Segment) (o : OrderSpec) : Segment := { s with orders := some (s.orders.getD [] ++ [o]) }

def paged (s : Segment) (p : PageSpec) : Segment := { s with page := some p }

end Segment

end RecordFilter
