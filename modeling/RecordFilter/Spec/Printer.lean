import RecordFilter.Json.Printer
import RecordFilter.Spec.Basic

set_option autoImplicit false

namespace RecordFilter

open Json (ofString ofInt ofMembers)

namespace Condition

def toJson (c : Condition) : Json :=
  ofMembers [("sort", ofInt c.sort.toInt), ("field", ofString c.field), ("dataType", ofString c.dataType.name),
    ("operator", ofString c.operator.name), ("values", .array (c.values.map ofString))]

def text (c : Condition) : String := c.toJson.text

end Condition

namespace ConditionGroup

mutual

def toJson : ConditionGroup → Json
  | ⟨sort, connector, conditions, subgroups⟩ =>
    ofMembers [("sort", ofInt sort.toInt), ("connector", ofString connector.name),
      ("conditions", .array (conditions.map Condition.toJson)), ("subConditionGroups", .array (toJsonList subgroups))]

def toJsonList : List ConditionGroup → List Json
  | [] => []
  | g :: gs => toJson g :: toJsonList gs

end

def text (g : ConditionGroup) : String := g.toJson.text

end ConditionGroup

def ConditionSet.toJson (s : ConditionSet) : Json :=
  ofMembers [("sort", ofInt s.sort.toInt),
    ("intersection", match s.combinator with | none => .null | some c => ofString c.name),
    ("group", s.group.toJson)]

def OrderSpec.toJson (o : OrderSpec) : Json :=
  ofMembers [("sort", ofInt o.sort.toInt), ("field", ofString o.field), ("direction", ofString o.direction.name)]

def PageSpec.toJson (p : PageSpec) : Json :=
  ofMembers [("pageNumber", ofInt p.number.toInt), ("pageSize", ofInt p.size.toInt)]

namespace Segment

def toJson (s : Segment) : Json :=
  ofMembers ([("sets", .array (s.sets.map ConditionSet.toJson))] ++
    (match s.orders with | none => [] | some os => [("orders", .array (os.map OrderSpec.toJson))]) ++
    (match s.page with | none => [] | some p => [("page", p.toJson)]))

def text (s : Segment) : String := s.toJson.text

end Segment

end RecordFilter
