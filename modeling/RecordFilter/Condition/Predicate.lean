import RecordFilter.Path
import RecordFilter.Predicate.Basic
import RecordFilter.Spec.Basic

set_option autoImplicit false

/-!
# Predicates of conditions

The predicate of a condition tests its leaf field. But for the null tests it first asks for a value, so a null field
satisfies nothing else. Around it stands one test of elements for every level of every collection on the path.
-/

namespace RecordFilter

namespace Condition

def single (c : Condition) : List Literal → Except FilterError Literal
  | l :: _ => .ok l
  | [] => .error (.requiredOneValue c.operator)

def pair (c : Condition) : List Literal → Except FilterError (Literal × Literal)
  | l :: m :: _ => .ok (l, m)
  | _ => .error (.requiredOneValue c.operator)

def pattern (c : Condition) : Literal → Except FilterError String
  | .text s => .ok s
  | _ => .error (.unsupportedOperator c.operator c.dataType)

def body (c : Condition) (field : FieldRef) (ls : List Literal) : Except FilterError Predicate :=
  let fold := c.operator.isCaseInsensitive
  let compare (op : Comparison) : Except FilterError Predicate :=
    (c.single ls).map fun l => .compare field op l fold
  let like (shape : String → LikePattern) (negated : Bool) : Except FilterError Predicate := do
    let l ← c.single ls
    let s ← c.pattern l
    .ok (.like field (shape s) fold negated)
  match c.operator with
  | .equal | .iEqual => compare .eq
  | .notEqual | .iNotEqual => compare .ne
  | .greaterThan => compare .gt
  | .greaterThanOrEqual => compare .gte
  | .lessThan => compare .lt
  | .lessThanOrEqual => compare .lte
  | .contains | .iContains => like .containing false
  | .notContains | .iNotContains => like .containing true
  | .startsWith | .iStartsWith => like .startingWith false
  | .notStartsWith | .iNotStartsWith => like .startingWith true
  | .endsWith | .iEndsWith => like .endingWith false
  | .notEndsWith | .iNotEndsWith => like .endingWith true
  | .isIn | .iIsIn => .ok (.disjunction (ls.map fun l => .compare field .eq l fold))
  | .isNotIn | .iIsNotIn => .ok (.conjunction (ls.map fun l => .compare field .ne l fold))
  | .between => (c.pair ls).map fun (lo, hi) => .and [.compare field .gte lo fold, .compare field .lte hi fold]
  | .notBetween => (c.pair ls).map fun (lo, hi) => .or [.compare field .lt lo fold, .compare field .gt hi fold]
  | .isNull => .ok (.isNull field)
  | .isNotNull => .ok (.isNotNull field)

end Condition

namespace Hop

def nest (p : Predicate) : Nat → Predicate
  | 0 => p
  | levels + 1 => .anyElement [] (nest p levels)

def wrap (hop : Hop) (p : Predicate) : Predicate := .anyElement hop.path (nest p (hop.depth - 1))

end Hop

namespace ResolvedPath

/-- The hops and the leaf path of a test. A null test of a collection looks at the collection itself and not at its
elements, so its last hop becomes the leaf path. -/
def target (p : ResolvedPath) (nullTest : Bool) : List Hop × FieldRef :=
  let (hops, leaf) := p.split
  match nullTest && leaf.isEmpty, hops.getLast? with
  | true, some last => (hops.dropLast, last.path)
  | _, _ => (hops, leaf)

end ResolvedPath

namespace Condition

def predicate (c : Condition) (path : ResolvedPath) (ls : List Literal) : Except FilterError Predicate := do
  let (hops, field) := path.target c.operator.isNullTest
  let ls := if c.operator.isCaseInsensitive then ls.map Literal.foldCase else ls
  let body ← c.body field ls
  let leaf := if c.operator.isNullTest then body else .and [.isNotNull field, body]
  .ok (hops.foldr Hop.wrap leaf)

end Condition

end RecordFilter
