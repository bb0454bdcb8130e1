set_option autoImplicit false

namespace RecordFilter

structure Config where
  /-- How many levels of groups there may be, the outermost being the first. -/
  maxGroupDepth : Nat
  /-- How many values a membership list may have. -/
  maxInValues : Nat
  /-- The largest page; larger ones are cut down to it. -/
  maxPageSize : Option Nat
  parallelSets : Bool
deriving DecidableEq

def Config.standard : Config := ⟨32, 1000, none, false⟩

end RecordFilter
