import RecordFilter.Json.Basic
import RecordFilter.Text.Hex

set_option autoImplicit false

namespace RecordFilter.Json

def unitEscape (n : Nat) : List Char :=
  '\\' :: 'u' :: [n / 4096, n / 256, n / 16, n].map fun d => RecordFilter.Text.hexDigit ⟨d % 16, Nat.mod_lt d (by decide)⟩

def escapedChar (c : Char) : List Char :=
  match c with
  | '"' => ['\\', '"']
  | '\\' => ['\\', '\\']
  | '\x08' => ['\\', 'b']
  | '\x0c' => ['\\', 'f']
  | '\n' => ['\\', 'n']
  | '\r' => ['\\', 'r']
  | '\t' => ['\\', 't']
  | c =>
    if c.toNat < 0x20 then unitEscape c.toNat else [c]

def quoted (cs : List Char) : List Char := '"' :: cs.flatMap escapedChar ++ ['"']

def Text.quoted (s : Text) : List Char := Json.quoted (s.getD "").toList

def Number.text (n : Number) : List Char :=
  (if n.negative then ['-'] else []) ++ n.whole ++
    (if n.fraction.isEmpty then [] else '.' :: n.fraction) ++
    match n.exponent with
    | none => []
    | some e => 'e' :: RecordFilter.Number.intText e

mutual

def chars : Json → List Char
  | null => ['n', 'u', 'l', 'l']
  | bool true => ['t', 'r', 'u', 'e']
  | bool false => ['f', 'a', 'l', 's', 'e']
  | number n => n.text
  | string s => s.quoted
  | array [] => ['[', ']']
  | array (j :: js) => '[' :: chars j ++ itemChars js
  | object [] => ['{', '}']
  | object ((k, j) :: ms) => '{' :: k.quoted ++ ':' :: chars j ++ memberChars ms

def itemChars : List Json → List Char
  | [] => [']']
  | j :: js => ',' :: chars j ++ itemChars js

def memberChars : List (Text × Json) → List Char
  | [] => ['}']
  | (k, j) :: ms => ',' :: k.quoted ++ ':' :: chars j ++ memberChars ms

end

def text (j : Json) : String := String.ofList j.chars

end RecordFilter.Json
