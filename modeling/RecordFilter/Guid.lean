import RecordFilter.Text.Hex
import RecordFilter.Text.Split

set_option autoImplicit false

namespace RecordFilter

structure Guid where
  digits : List (Fin 16)
  length_eq : digits.length = 32
deriving DecidableEq

namespace Guid

def of? (digits : List (Fin 16)) : Option Guid := if h : digits.length = 32 then some ⟨digits, h⟩ else none

theorem of?_eq_some_iff {ds : List (Fin 16)} {g : Guid} : of? ds = some g ↔ g.digits = ds := by
  unfold of?
  constructor
  · intro h
    split at h
    · cases h; rfl
    · cases h
  · rintro rfl
    rw [dif_pos g.length_eq]

def readPlain? (cs : List Char) : Option Guid := (cs.mapM Text.hexValue?).bind of?

def readHyphenated? (cs : List Char) : Option Guid :=
  let groups := Text.split '-' cs
  if groups.map List.length = [8, 4, 4, 4, 12] then readPlain? groups.flatten else none

def scheme : List Char := "urn:uuid:".toList

def read? (cs : List Char) : Option Guid :=
  if cs.length = 32 then readPlain? cs
  else if cs.length = 38 then
    if cs.head? = some '{' ∧ cs.getLast? = some '}' then readHyphenated? (cs.tail.dropLast) else none
  else if (cs.take scheme.length).map Char.toLower = scheme then readHyphenated? (cs.drop scheme.length)
  else readHyphenated? cs

def text (g : Guid) : List Char :=
  let ds := g.digits.map Text.hexDigit
  ds.take 8 ++ '-' :: (ds.drop 8).take 4 ++ '-' :: (ds.drop 12).take 4 ++ '-' :: (ds.drop 16).take 4 ++
    '-' :: ds.drop 20

def compare (a b : Guid) : Ordering := List.compareLex (fun x y => Ord.compare x.val y.val) a.digits b.digits

end Guid

end RecordFilter
