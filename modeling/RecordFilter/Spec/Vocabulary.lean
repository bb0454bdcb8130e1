set_option autoImplicit false

namespace RecordFilter

inductive DataType where
  | text | number | boolean | date | dateTime | guid
deriving DecidableEq

namespace DataType

def all : List DataType := [text, number, boolean, date, dateTime, guid]

def name : DataType → String
  | text => "Text"
  | number => "Number"
  | boolean => "Boolean"
  | date => "Date"
  | dateTime => "DateTime"
  | guid => "Guid"

def otherNames : DataType → List String
  | text => ["String", "text"]
  | number => ["number"]
  | boolean => ["Bool", "boolean"]
  | date => ["date"]
  | dateTime => ["datetime"]
  | guid => ["GUID", "Uuid", "guid"]

end DataType

inductive Arity where
  | none | one | two | many
deriving DecidableEq

def Arity.name : Arity → String
  | none => "None"
  | one => "One"
  | two => "Two"
  | many => "Many"

inductive Operator where
  | equal | notEqual | iEqual | iNotEqual
  | contains | notContains | iContains | iNotContains
  | startsWith | notStartsWith | iStartsWith | iNotStartsWith
  | endsWith | notEndsWith | iEndsWith | iNotEndsWith
  | greaterThan | greaterThanOrEqual | lessThan | lessThanOrEqual
  | isIn | isNotIn | iIsIn | iIsNotIn
  | between | notBetween
  | isNull | isNotNull
deriving DecidableEq

namespace Operator

def all : List Operator :=
  [equal, notEqual, iEqual, iNotEqual, contains, notContains, iContains, iNotContains, startsWith, notStartsWith,
    iStartsWith, iNotStartsWith, endsWith, notEndsWith, iEndsWith, iNotEndsWith, greaterThan, greaterThanOrEqual,
    lessThan, lessThanOrEqual, isIn, isNotIn, iIsIn, iIsNotIn, between, notBetween, isNull, isNotNull]

def name : Operator → String
  | equal => "Equal"
  | notEqual => "NotEqual"
  | iEqual => "IEqual"
  | iNotEqual => "INotEqual"
  | contains => "Contains"
  | notContains => "NotContains"
  | iContains => "IContains"
  | iNotContains => "INotContains"
  | startsWith => "StartsWith"
  | notStartsWith => "NotStartsWith"
  | iStartsWith => "IStartsWith"
  | iNotStartsWith => "INotStartsWith"
  | endsWith => "EndsWith"
  | notEndsWith => "NotEndsWith"
  | iEndsWith => "IEndsWith"
  | iNotEndsWith => "INotEndsWith"
  | greaterThan => "GreaterThan"
  | greaterThanOrEqual => "GreaterThanOrEqual"
  | lessThan => "LessThan"
  | lessThanOrEqual => "LessThanOrEqual"
  | isIn => "In"
  | isNotIn => "NotIn"
  | iIsIn => "IIn"
  | iIsNotIn => "INotIn"
  | between => "Between"
  | notBetween => "NotBetween"
  | isNull => "IsNull"
  | isNotNull => "IsNotNull"

def arity : Operator → Arity
  | between | notBetween => .two
  | isIn | isNotIn | iIsIn | iIsNotIn => .many
  | isNull | isNotNull => .none
  | _ => .one

def isCaseInsensitive : Operator → Bool
  | iEqual | iNotEqual | iContains | iNotContains | iStartsWith | iNotStartsWith | iEndsWith | iNotEndsWith | iIsIn
  | iIsNotIn => true
  | _ => false

def isPattern : Operator → Bool
  | contains | notContains | iContains | iNotContains | startsWith | notStartsWith | iStartsWith | iNotStartsWith
  | endsWith | notEndsWith | iEndsWith | iNotEndsWith => true
  | _ => false

def isOrdering : Operator → Bool
  | greaterThan | greaterThanOrEqual | lessThan | lessThanOrEqual | between | notBetween => true
  | _ => false

def isNullTest : Operator → Bool
  | isNull | isNotNull => true
  | _ => false

def supports (op : Operator) (t : DataType) : Bool :=
  match op with
  | isNull | isNotNull | equal | notEqual => true
  | _ =>
    match t with
    | .text => !op.isOrdering
    | .number | .date | .dateTime => !op.isCaseInsensitive && !op.isPattern
    | .guid => op == isIn || op == isNotIn
    | .boolean => false

end Operator

inductive Connector where
  | and | or
deriving DecidableEq

namespace Connector

def all : List Connector := [and, or]

def name : Connector → String
  | and => "And"
  | or => "Or"

def otherNames : Connector → List String
  | and => ["AND", "and"]
  | or => ["OR", "or"]

end Connector

inductive Combinator where
  | union | intersect | except
deriving DecidableEq

namespace Combinator

def all : List Combinator := [union, intersect, except]

def name : Combinator → String
  | union => "Union"
  | intersect => "Intersect"
  | except => "Except"

def otherNames : Combinator → List String
  | intersect => ["Intersection"]
  | _ => []

end Combinator

inductive Direction where
  | ascending | descending
deriving DecidableEq

namespace Direction

def all : List Direction := [ascending, descending]

def name : Direction → String
  | ascending => "Ascending"
  | descending => "Descending"

def otherNames : Direction → List String
  | ascending => ["Asc", "asc"]
  | descending => ["Desc", "desc"]

end Direction

end RecordFilter
