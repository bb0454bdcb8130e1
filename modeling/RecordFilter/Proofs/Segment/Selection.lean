import Mathlib
import RecordFilter.Proofs.Record.Sorting
import RecordFilter.Proofs.Segment.Compiled
import RecordFilter.Proofs.Segment.Fixed
import RecordFilter.Proofs.Segment.SetAlgebra

set_option autoImplicit false

namespace RecordFilter

namespace Fold

variable {α : Type} {rows running : List (RecordKey × α)} {before here : RecordKey × α → Bool}

end Fold

namespace Compiler

variable {α : Type} [HasFields α] (k : Compiler)

def satisfies (set : ConditionSet) (a : α) : Bool :=
  match k.compileGroup set.group with
  | .ok p => p.accepts a
  | .error _ => false

def term (rows : List (RecordKey × α)) (set : ConditionSet) : Combinator × List (RecordKey × α) :=
  (set.combinator.getD .union, rows.filter fun x => k.satisfies set x.2)

end Compiler

end RecordFilter
