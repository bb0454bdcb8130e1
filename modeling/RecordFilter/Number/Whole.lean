import RecordFilter.Number.Digits
import RecordFilter.Number.Power

set_option autoImplicit false

namespace RecordFilter

structure Whole where
  toInt : Int
  lower : -2 ^ 127 ≤ toInt
  upper : toInt < 2 ^ 127
deriving DecidableEq

namespace Whole

def ofInt? (i : Int) : Option Whole :=
  if h : -2 ^ 127 ≤ i ∧ i < 2 ^ 127 then some ⟨i, h.1, h.2⟩ else none

theorem ofInt?_eq_some_iff {i : Int} {w : Whole} : ofInt? i = some w ↔ w.toInt = i := by
  unfold ofInt?
  constructor
  · intro h
    split at h
    · cases h; rfl
    · cases h
  · rintro rfl
    rw [dif_pos ⟨w.lower, w.upper⟩]

theorem ofInt?_toInt (w : Whole) : ofInt? w.toInt = some w := ofInt?_eq_some_iff.2 rfl

def ofInt64 (i : Int64) : Whole :=
  ⟨i.toInt, by have := i.le_toInt; omega, by have := i.toInt_lt; omega⟩

def read? (cs : List Char) : Option Whole := (Number.readInt? cs).bind ofInt?

def text (w : Whole) : List Char := Number.intText w.toInt

end Whole

end RecordFilter
