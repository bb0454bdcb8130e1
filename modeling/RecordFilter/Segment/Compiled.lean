import RecordFilter.Page
import RecordFilter.Predicate.Basic
import RecordFilter.Record.Order

set_option autoImplicit false

namespace RecordFilter

structure CompiledSet where
  sort : Int64
  /-- Missing on the first set alone. -/
  combinator : Option Combinator
  predicate : Predicate

structure CompiledSegment where
  sets : List CompiledSet
  orders : List OrderKey
  page : Option PageWindow
  /-- Present where there is more than one set. -/
  key : Option FieldRef

end RecordFilter
