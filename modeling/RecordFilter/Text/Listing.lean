import RecordFilter.Text.CaseTable
import RecordFilter.Text.GlyphTable
import RecordFilter.Text.Hex

set_option autoImplicit false

namespace RecordFilter.Text

def isGlyphless (c : Char) : Bool := inRanges joiningRanges c.toNat || inRanges glyphlessRanges c.toNat

def listedChar (c : Char) : List Char :=
  match c with
  | '\x00' => ['\\', '0']
  | '\t' => ['\\', 't']
  | '\n' => ['\\', 'n']
  | '\r' => ['\\', 'r']
  | '"' => ['\\', '"']
  | '\\' => ['\\', '\\']
  | c =>
    if 0x20 ≤ c.toNat && c.toNat < 0x7F then [c]
    else if isGlyphless c then ['\\', 'u', '{'] ++ hexDigits c.toNat ++ ['}']
    else [c]

def listed (cs : List Char) : List Char := '"' :: cs.flatMap listedChar ++ ['"']

end RecordFilter.Text
