set_option autoImplicit false

namespace RecordFilter

structure Cancellation where
  /-- The flag of each handle, by number. -/
  handles : List (String × Nat)
  raised : List Nat
  /-- The number of the next new flag. -/
  next : Nat

namespace Cancellation

def start : Cancellation := ⟨[], [], 0⟩

def bind (c : Cancellation) (name : String) (flag : Nat) : Cancellation :=
  { c with handles := (name, flag) :: c.handles.filter fun h => h.1 ≠ name }

def fresh (c : Cancellation) (name : String) : Cancellation := { (c.bind name c.next) with next := c.next + 1 }

def clone (c : Cancellation) (source target : String) : Cancellation :=
  match c.handles.lookup source with
  | some flag => c.bind target flag
  | none => c

def cancel (c : Cancellation) (name : String) : Cancellation :=
  match c.handles.lookup name with
  | some flag => { c with raised := flag :: c.raised }
  | none => c

def cancelled (c : Cancellation) : List String :=
  ((c.handles.filter fun h => h.2 ∈ c.raised).map Prod.fst).mergeSort fun a b => compare a b != .gt

end Cancellation

end RecordFilter
