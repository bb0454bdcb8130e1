import RecordFilter.Spec.Vocabulary

set_option autoImplicit false

namespace RecordFilter

inductive FilterError where
  | setsUniqueSort
  | conditionsUniqueSort
  | subgroupsUniqueSort
  | requiredIntersection (sort : Int64)
  | invalidField (path : String)
  | invalidValue (field : String)
  | requiredValues (op : Operator)
  | notRequiredValues (op : Operator)
  | requiredTwoValue (op : Operator)
  | requiredOneValue (op : Operator)
  | invalidFormat (value : String) (type : DataType)
  | invalidPageNumber (number : Int64)
  | invalidPageSize (size : Int64)
  | unsupportedOperator (op : Operator) (type : DataType)
  | tooManyValues (op : Operator) (max : Nat)
  | nestingTooDeep (max : Nat)
  | missingSpec
  | missingRecordKey (schema : String)
  | invalidRecordKey (what : String)
  | cancelled
  | source (reason : String)
  /-- The text of a specification is not JSON of the right shape. -/
  | json
  /-- The text of a configuration is not a table of the right shape. -/
  | config
  | io (reason : String)
deriving DecidableEq

inductive Stop where
  | failed (error : FilterError)
  | panicked
deriving DecidableEq

inductive ErrorKind where
  | validation | contract | external
deriving DecidableEq

def ErrorKind.name : ErrorKind → String
  | validation => "Validation"
  | contract => "Contract"
  | external => "External"

namespace FilterError

def code : FilterError → String
  | setsUniqueSort => "SetsUniqueSort"
  | conditionsUniqueSort => "ConditionsUniqueSort"
  | subgroupsUniqueSort => "SubConditionsGroupsUniqueSort"
  | requiredIntersection _ => "RequiredIntersection"
  | invalidField _ => "InvalidField"
  | invalidValue _ => "InvalidValue"
  | requiredValues _ => "RequiredValues"
  | notRequiredValues _ => "NotRequiredValues"
  | requiredTwoValue _ => "RequiredTwoValue"
  | requiredOneValue _ => "RequiredOneValue"
  | invalidFormat _ _ => "InvalidFormat"
  | invalidPageNumber _ => "InvalidPageNumber"
  | invalidPageSize _ => "InvalidPageSize"
  | unsupportedOperator _ _ => "UnsupportedOperator"
  | tooManyValues _ _ => "TooManyValues"
  | nestingTooDeep _ => "NestingTooDeep"
  | missingSpec => "MissingSpec"
  | missingRecordKey _ => "MissingRecordKey"
  | invalidRecordKey _ => "InvalidRecordKey"
  | cancelled => "Cancelled"
  | source _ => "Source"
  | json => "Json"
  | config => "Config"
  | io _ => "Io"

def kind : FilterError → ErrorKind
  | missingSpec | missingRecordKey _ | invalidRecordKey _ | cancelled => .contract
  | source _ | json | config | io _ => .external
  | _ => .validation

/-- What is wrong, in words. There is nothing more to say of a text of the wrong shape. -/
def message? : FilterError → Option String
  | setsUniqueSort => some "condition sets must have unique sort values"
  | conditionsUniqueSort => some "conditions must have unique sort values within a group"
  | subgroupsUniqueSort => some "sub condition groups must have unique sort values within a group"
  | requiredIntersection sort => some s!"condition set {sort.toInt} requires an intersection operator"
  | invalidField path => some s!"invalid field: {path}"
  | invalidValue field => some s!"invalid value for field {field}"
  | requiredValues op => some s!"operator {op.name} requires at least one value"
  | notRequiredValues op => some s!"operator {op.name} does not accept values"
  | requiredTwoValue op => some s!"operator {op.name} requires exactly two values"
  | requiredOneValue op => some s!"operator {op.name} requires exactly one value"
  | invalidFormat value type => some s!"value '{value}' is not a valid {type.name}"
  | invalidPageNumber number => some s!"invalid page number: {number.toInt}"
  | invalidPageSize size => some s!"invalid page size: {size.toInt}"
  | unsupportedOperator op type => some s!"operator {op.name} is not supported for {type.name} fields"
  | tooManyValues op max => some s!"operator {op.name} accepts at most {max} values"
  | nestingTooDeep max => some s!"condition groups nest deeper than {max} levels"
  | missingSpec => some "no filter specification supplied"
  | missingRecordKey schema => some s!"schema {schema} declares no record key; set operations need one"
  | invalidRecordKey what => some s!"record key is null or not a scalar: {what}"
  | cancelled => some "segment execution cancelled"
  | source reason => some s!"record source error: {reason}"
  | json => none
  | config => none
  | io reason => some s!"I/O error: {reason}"

end FilterError

end RecordFilter
