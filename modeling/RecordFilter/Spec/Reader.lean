import RecordFilter.Error
import RecordFilter.Json.Reader
import RecordFilter.Spec.Basic

set_option autoImplicit false

/-!
# Reading specifications

A specification is read from a JSON text. A record of fields is written as an object, whose unknown members do not
count, or as an array in the order of declaration; a word as a string, or as an object with that one name and
`null`. Arrays and objects that belong to the specification nest at most 127 deep.
-/

namespace RecordFilter

namespace Spec

def maxNesting : Nat := 127

/-- The values of the fields of a record, each field being known by one or more names. A field may be missing,
but not be given twice. -/
def fields? (names : List (List String)) : Json → Option (List (Option Json))
  | .object members =>
    if members.all (fun m => m.1.isSome) then
      names.mapM fun known =>
        match members.filter fun m => known.any fun k => m.1 == some k with
        | [] => some none
        | [m] => some (some m.2)
        | _ => none
    else none
  | .array items =>
    if items.length ≤ names.length then
      some (items.map some ++ List.replicate (names.length - items.length) none)
    else none
  | _ => none

def word? {α : Type} (known : List (String × α)) (room : Nat) : Json → Option α
  | .string (some s) => known.lookup s
  | .object [(some s, .null)] => if room = 0 then none else known.lookup s
  | _ => none

def words {α : Type} (all : List α) (name : α → String) (otherNames : α → List String) : List (String × α) :=
  all.flatMap fun a => (name a :: otherNames a).map fun s => (s, a)

def dataTypes : List (String × DataType) := words DataType.all DataType.name DataType.otherNames

def operators : List (String × Operator) := words Operator.all Operator.name fun _ => []

def connectors : List (String × Connector) := words Connector.all Connector.name Connector.otherNames

def combinators : List (String × Combinator) := words Combinator.all Combinator.name Combinator.otherNames

def directions : List (String × Direction) := words Direction.all Direction.name Direction.otherNames

def text? : Json → Option String
  | .string s => s
  | _ => none

def int64? : Json → Option Int64
  | .number n => n.toInt64?
  | _ => none

def list? {α : Type} (read : Nat → Json → Option α) : Nat → Json → Option (List α)
  | room + 1, .array items => items.mapM (read room)
  | _, _ => none

def nullable? {α : Type} (read : Json → Option α) : Json → Option (Option α)
  | .null => some none
  | j => (read j).map some

def orDefault {α : Type} (default : α) (read : Json → Option α) : Option Json → Option α
  | none => some default
  | some j => read j

def condition? : Nat → Json → Option Condition
  | 0, _ => none
  | room + 1, j =>
    match fields? [["sort"], ["field"], ["dataType"], ["operator"], ["values"]] j with
    | some [sort, field, dataType, op, values] => do
      let sort ← orDefault 0 int64? sort
      let field ← field.bind text?
      let dataType ← dataType.bind (word? dataTypes room)
      let op ← op.bind (word? operators room)
      let values ← orDefault [] (list? (fun _ => text?) room) values
      some ⟨sort, field, dataType, op, values⟩
    | _ => none

/-- Reads a group inside `room` levels; each group takes two of them, one for itself and one for its members. -/
def group? : Nat → Json → Option ConditionGroup
  | 0, _ => none
  | room + 1, j =>
    match fields? [["sort"], ["connector"], ["conditions"], ["subConditionGroups", "subgroups"]] j with
    | some [sort, connector, conditions, subgroups] => do
      let sort ← orDefault 0 int64? sort
      let connector ← orDefault .and (word? connectors room) connector
      let conditions ← orDefault [] (list? condition? room) conditions
      let subgroups ← match subgroups, room with
        | none, _ => some []
        | some (.array items), room + 1 => items.mapM (group? room)
        | some _, _ => none
      some ⟨sort, connector, conditions, subgroups⟩
    | _ => none

def conditionSet? : Nat → Json → Option ConditionSet
  | 0, _ => none
  | room + 1, j =>
    match fields? [["sort"], ["intersection", "combinator"], ["group", "conditionGroup"]] j with
    | some [sort, combinator, group] => do
      let sort ← orDefault 0 int64? sort
      let combinator ← orDefault none (nullable? (word? combinators room)) combinator
      let group ← group.bind (group? room)
      some ⟨sort, combinator, group⟩
    | _ => none

def orderSpec? : Nat → Json → Option OrderSpec
  | 0, _ => none
  | room + 1, j =>
    match fields? [["sort"], ["field"], ["direction"]] j with
    | some [sort, field, direction] => do
      let sort ← orDefault 0 int64? sort
      let field ← field.bind text?
      let direction ← orDefault .ascending (word? directions room) direction
      some ⟨sort, field, direction⟩
    | _ => none

def pageSpec? : Nat → Json → Option PageSpec
  | 0, _ => none
  | _ + 1, j =>
    match fields? [["pageNumber"], ["pageSize"]] j with
    | some [number, size] => do
      let number ← number.bind int64?
      let size ← size.bind int64?
      some ⟨number, size⟩
    | _ => none

def segment? : Nat → Json → Option Segment
  | 0, _ => none
  | room + 1, j =>
    match fields? [["sets", "conditionSets"], ["orders"], ["page"]] j with
    | some [sets, orders, page] => do
      let sets ← orDefault [] (list? conditionSet? room) sets
      let orders ← orDefault none (nullable? (list? orderSpec? room)) orders
      let page ← orDefault none (nullable? (pageSpec? room)) page
      some ⟨sets, orders, page⟩
    | _ => none

/-- Reads a whole text; a text that holds `null` has no specification in it. -/
def ofText {α : Type} (read : Nat → Json → Option α) (s : String) : Except FilterError α :=
  match Json.ofText? s with
  | none => .error .json
  | some .null => .error .missingSpec
  | some j =>
    match read maxNesting j with
    | some a => .ok a
    | none => .error .json

end Spec

def Condition.ofText : String → Except FilterError Condition := Spec.ofText Spec.condition?

def ConditionGroup.ofText : String → Except FilterError ConditionGroup := Spec.ofText Spec.group?

def Segment.ofText : String → Except FilterError Segment := Spec.ofText Spec.segment?

def Operator.ofJson (j : Json) : Except FilterError Operator :=
  match Spec.word? Spec.operators Spec.maxNesting j with
  | some op => .ok op
  | none => .error .json

end RecordFilter
