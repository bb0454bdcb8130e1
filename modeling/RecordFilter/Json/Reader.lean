import RecordFilter.Json.Basic
import RecordFilter.Text.Hex

set_option autoImplicit false

namespace RecordFilter.Json

def isSpace (c : Char) : Bool := c == ' ' || c == '\n' || c == '\r' || c == '\t'

def skipSpace (cs : List Char) : List Char := cs.dropWhile isSpace

def isLeadingHalf (n : Nat) : Bool := 0xD800 ≤ n && n < 0xDC00

def isTrailingHalf (n : Nat) : Bool := 0xDC00 ≤ n && n < 0xE000

def escape? : Char → Option Char
  | '"' => some '"'
  | '\\' => some '\\'
  | '/' => some '/'
  | 'b' => some '\x08'
  | 'f' => some '\x0c'
  | 'n' => some '\n'
  | 'r' => some '\r'
  | 't' => some '\t'
  | _ => none

/-- A piece of a string as written: a character, or a 16-bit unit given by its number. -/
inductive Piece where
  | char (c : Char)
  | unit (n : Nat)

/-- Reads the pieces of a string after its opening quote; `read` holds those read so far, backwards. -/
def readPieces? (read : List Piece) : List Char → Option (List Piece × List Char)
  | [] => none
  | '"' :: cs => some (read.reverse, cs)
  | '\\' :: 'u' :: a :: b :: c :: d :: cs =>
    match RecordFilter.Text.readHex? [a, b, c, d] with
    | some n => readPieces? (.unit n :: read) cs
    | none => none
  | '\\' :: c :: cs =>
    match escape? c with
    | some e => readPieces? (.char e :: read) cs
    | none => none
  | c :: cs => if c.toNat < 0x20 then none else readPieces? (.char c :: read) cs

/-- Joins the pieces of a string, two halves of a surrogate pair into one character. -/
def joinPieces? : List Piece → Option (List Char)
  | [] => some []
  | .char c :: ps => (joinPieces? ps).map (c :: ·)
  | .unit n :: ps =>
    if isTrailingHalf n then none
    else if isLeadingHalf n then
      match ps with
      | .unit m :: rest =>
        if isTrailingHalf m then
          (joinPieces? rest).map (Char.ofNat (0x10000 + (n - 0xD800) * 0x400 + (m - 0xDC00)) :: ·)
        else none
      | _ => none
    else (joinPieces? ps).map (Char.ofNat n :: ·)

def readString? (cs : List Char) : Option (Text × List Char) :=
  (readPieces? [] cs).map fun (ps, r) => ((joinPieces? ps).map String.ofList, r)

def readDigits? (cs : List Char) : Option (List Char × List Char) :=
  match cs.takeWhile Char.isDigit with
  | [] => none
  | ds => some (ds, cs.dropWhile Char.isDigit)

def readWhole? : List Char → Option (List Char × List Char)
  | '0' :: cs => some (['0'], cs)
  | cs => readDigits? cs

def readFraction? : List Char → Option (List Char × List Char)
  | '.' :: cs => readDigits? cs
  | cs => some ([], cs)

def readExponent? : List Char → Option (Option Int × List Char)
  | c :: cs =>
    if c = 'e' ∨ c = 'E' then
      let (negative, cs) := match cs with
        | '+' :: r => (false, r)
        | '-' :: r => (true, r)
        | r => (false, r)
      (readDigits? cs).map fun (ds, rest) =>
        let n : Int := RecordFilter.Number.ofDigits ds
        (some (if negative then -n else n), rest)
    else some (none, c :: cs)
  | [] => some (none, [])

def readNumber? (cs : List Char) : Option (Number × List Char) := do
  let (negative, cs) := match cs with
    | '-' :: r => (true, r)
    | r => (false, r)
  let (whole, cs) ← readWhole? cs
  let (fraction, cs) ← readFraction? cs
  let (exponent, cs) ← readExponent? cs
  some (⟨negative, whole, fraction, exponent⟩, cs)

mutual

/-- Reads a value in at most `fuel` steps, of which a value takes at most two for each of its characters. -/
def readValue? : Nat → List Char → Option (Json × List Char)
  | 0, _ => none
  | fuel + 1, cs =>
    match skipSpace cs with
    | [] => none
    | 'n' :: 'u' :: 'l' :: 'l' :: r => some (null, r)
    | 't' :: 'r' :: 'u' :: 'e' :: r => some (bool true, r)
    | 'f' :: 'a' :: 'l' :: 's' :: 'e' :: r => some (bool false, r)
    | '"' :: r => (readString? r).map fun (s, r) => (string s, r)
    | '[' :: r =>
      match skipSpace r with
      | ']' :: r => some (array [], r)
      | r => (readItems? fuel r).map fun (js, r) => (array js, r)
    | '{' :: r =>
      match skipSpace r with
      | '}' :: r => some (object [], r)
      | r => (readMembers? fuel r).map fun (ms, r) => (object ms, r)
    | r => (readNumber? r).map fun (n, r) => (number n, r)

def readItems? : Nat → List Char → Option (List Json × List Char)
  | 0, _ => none
  | fuel + 1, cs =>
    match readValue? fuel cs with
    | none => none
    | some (j, r) =>
      match skipSpace r with
      | ',' :: r => (readItems? fuel r).map fun (js, r) => (j :: js, r)
      | ']' :: r => some ([j], r)
      | _ => none

def readMembers? : Nat → List Char → Option (List (Text × Json) × List Char)
  | 0, _ => none
  | fuel + 1, cs =>
    match skipSpace cs with
    | '"' :: r =>
      match readString? r with
      | none => none
      | some (k, r) =>
        match skipSpace r with
        | ':' :: r =>
          match readValue? fuel r with
          | none => none
          | some (j, r) =>
            match skipSpace r with
            | ',' :: r => (readMembers? fuel r).map fun (ms, r) => ((k, j) :: ms, r)
            | '}' :: r => some ([(k, j)], r)
            | _ => none
        | _ => none
    | _ => none

end

def ofChars? (cs : List Char) : Option Json :=
  match readValue? (2 * cs.length + 2) cs with
  | some (j, rest) => if (skipSpace rest).isEmpty then some j else none
  | none => none

def ofText? (s : String) : Option Json := ofChars? s.toList

end RecordFilter.Json
