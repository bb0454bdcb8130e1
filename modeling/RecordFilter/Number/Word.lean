import RecordFilter.Number.Power

set_option autoImplicit false

namespace RecordFilter.Word

def max : Nat := 2 ^ 64 - 1

def saturate (n : Nat) : Nat := min n max

def ofInt64? (i : Int64) : Option Nat := if 0 ≤ i.toInt then some i.toInt.toNat else none

/-- How many blocks of `size` it takes for `total`; a size of zero counts as one. -/
def ceilDiv (total size : Nat) : Nat :=
  let size := Nat.max size 1
  (total + size - 1) / size

end RecordFilter.Word
