set_option autoImplicit false

namespace RecordFilter.Text

def hexDigit (d : Fin 16) : Char := if d.val < 10 then Char.ofNat (d.val + 0x30) else Char.ofNat (d.val + 0x57)

def hexValue? (c : Char) : Option (Fin 16) :=
  let n := c.toNat
  if 0x30 ≤ n ∧ n ≤ 0x39 then some (Fin.ofNat 16 (n - 0x30))
  else if 0x61 ≤ n ∧ n ≤ 0x66 then some (Fin.ofNat 16 (n - 0x57))
  else if 0x41 ≤ n ∧ n ≤ 0x46 then some (Fin.ofNat 16 (n - 0x37))
  else none

theorem hexValue?_hexDigit (d : Fin 16) : hexValue? (hexDigit d) = some d := by
  revert d
  decide

def hexDigits (n : Nat) : List Char :=
  if n < 16 then [hexDigit (Fin.ofNat 16 n)] else hexDigits (n / 16) ++ [hexDigit (Fin.ofNat 16 n)]

def ofHexDigits (ds : List (Fin 16)) : Nat := ds.foldl (fun n d => 16 * n + d.val) 0

def readHex? (cs : List Char) : Option Nat := (cs.mapM hexValue?).map ofHexDigits

end RecordFilter.Text
