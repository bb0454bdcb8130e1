import RecordFilter.Error
import RecordFilter.Record.Basic
import RecordFilter.Sorter
import RecordFilter.Value.Order

set_option autoImplicit false

namespace RecordFilter

structure OrderKey where
  field : FieldRef
  direction : Direction
deriving DecidableEq

namespace OrderKey

def compare (key : OrderKey) (a b : Value) : Ordering :=
  let o := (a.follow key.field).compare (b.follow key.field)
  match key.direction with
  | .ascending => o
  | .descending => o.swap

end OrderKey

def compareBy (keys : List OrderKey) (a b : Value) : Ordering :=
  match keys with
  | [] => .eq
  | key :: keys => (key.compare a b).then (compareBy keys a b)

section Records

variable {α : Type} [HasFields α]

def byKeys (keys : List OrderKey) (a b : α) : Ordering := compareBy keys (scope a) (scope b)

/-- What sorting gives where the keys put the records in order. -/
def sortRecords (keys : List OrderKey) (items : List α) : List α := items.mergeSort fun a b => byKeys keys a b != .gt

variable [Sorter]

/-- Sorts records by keys, if there are any. -/
def orderRecords (keys : List OrderKey) (items : List α) : Except Stop (List α) :=
  if keys.isEmpty then .ok items
  else
    match Sorter.sort? (byKeys keys) items with
    | some sorted => .ok sorted
    | none => .error .panicked

theorem orderRecords_perm {keys : List OrderKey} {items sorted : List α} (h : orderRecords keys items = .ok sorted) :
    sorted.Perm items := by
  unfold orderRecords at h
  split at h
  · cases h
    exact .refl items
  · split at h
    · cases h
      exact Sorter.perm ‹_›
    · cases h

theorem orderRecords_eq_error {keys : List OrderKey} {items : List α} {stop : Stop}
    (h : orderRecords keys items = .error stop) : stop = .panicked := by
  unfold orderRecords at h
  split at h
  · cases h
  · split at h <;> cases h
    rfl

end Records

end RecordFilter
