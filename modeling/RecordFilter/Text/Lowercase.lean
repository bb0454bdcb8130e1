import RecordFilter.Text.CaseTable

set_option autoImplicit false

namespace RecordFilter.Text

def asciiLowercase (cs : List Char) : List Char := cs.map Char.toLower

def equalIgnoringAsciiCase (s t : List Char) : Bool := asciiLowercase s == asciiLowercase t

def lowercaseChar (c : Char) : List Char :=
  if c.toNat < 0x80 then [c.toLower]
  else if c = 'İ' then ['i', '\u0307']
  else
    match lowercaseRuns.find? (fun r => decide (r.Covers c.toNat)) with
    | some r => [Char.ofNat (c.toNat + r.shift).toNat]
    | none => [c]

def touchesCased (cs : List Char) : Bool :=
  match cs.dropWhile isCaseIgnorable with
  | c :: _ => isCased c
  | [] => false

/-- A sigma ends a word if a cased letter stands before it and none after it; `before` is read backwards. -/
def endsWord (before after : List Char) : Bool := touchesCased before && !touchesCased after

/-- Lowercases `cs`, where `before` holds what stands before it, backwards. -/
def lowercaseFrom (before : List Char) : List Char → List Char
  | [] => []
  | c :: after =>
    (if c = 'Σ' then [if endsWord before after then 'ς' else 'σ'] else lowercaseChar c) ++
      lowercaseFrom (c :: before) after

def lowercase (cs : List Char) : List Char := lowercaseFrom [] cs

end RecordFilter.Text

namespace RecordFilter

def lowercase (s : String) : String := String.ofList (Text.lowercase s.toList)

end RecordFilter
