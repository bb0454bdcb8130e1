import RecordFilter.Error
import RecordFilter.Number.Word
import RecordFilter.Spec.Basic

set_option autoImplicit false

namespace RecordFilter

structure PageWindow where
  number : Nat
  size : Nat
deriving DecidableEq

namespace PageWindow

def ofSpec (spec : PageSpec) (maxSize : Option Nat) : Except FilterError PageWindow :=
  match Word.ofInt64? spec.number with
  | none => .error (.invalidPageNumber spec.number)
  | some number =>
    match Word.ofInt64? spec.size with
    | none => .error (.invalidPageSize spec.size)
    | some size =>
      match maxSize with
      | some most => .ok ⟨number, min size most⟩
      | none => .ok ⟨number, size⟩

def skip (w : PageWindow) : Nat := Word.saturate ((w.number - 1) * w.size)

def take (w : PageWindow) : Nat := w.size

end PageWindow

structure Page (α : Type) where
  number : Nat
  size : Nat
  /-- How many pages there are. -/
  count : Nat
  /-- How many records there are on all pages. -/
  total : Nat
  data : List α
deriving DecidableEq

/-- A page of `total` records; without a window, the one page that has them all. -/
def Page.of {α : Type} (window : Option PageWindow) (total : Nat) (data : List α) : Page α :=
  match window with
  | some w => ⟨w.number, w.size, Word.ceilDiv total w.size, total, data⟩
  | none => ⟨1, total, Word.ceilDiv total total, total, data⟩

end RecordFilter
