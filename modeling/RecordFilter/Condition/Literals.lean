import RecordFilter.Literal
import RecordFilter.Spec.Basic

set_option autoImplicit false

namespace RecordFilter.Condition

/-- The fault in the number of values, of which a membership list may have at most `maxValues`. -/
def countFault? (c : Condition) (maxValues : Nat) : Option FilterError :=
  match c.operator.arity with
  | .none => if c.values.isEmpty then none else some (.notRequiredValues c.operator)
  | .one => if c.values.length = 1 then none else some (.requiredOneValue c.operator)
  | .two => if c.values.length = 2 then none else some (.requiredTwoValue c.operator)
  | .many =>
    if c.values.isEmpty then some (.requiredValues c.operator)
    else if maxValues < c.values.length then some (.tooManyValues c.operator maxValues)
    else none

def isBlank (s : String) : Bool := s.toList.all Text.isBlank

def literals (c : Condition) (maxValues : Nat) : Except FilterError (List Literal) :=
  if !c.operator.supports c.dataType then .error (.unsupportedOperator c.operator c.dataType)
  else
    match c.countFault? maxValues with
    | some fault => .error fault
    | none =>
      if c.values.any isBlank then .error (.invalidValue c.field)
      else c.values.mapM (Literal.ofText c.dataType)

end RecordFilter.Condition
