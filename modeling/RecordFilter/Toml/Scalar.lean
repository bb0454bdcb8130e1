import RecordFilter.Calendar.Reading
import RecordFilter.Number.Decimal
import RecordFilter.Text.Hex
import RecordFilter.Toml.Table

set_option autoImplicit false

namespace RecordFilter.Toml

/-- A character that may stand in a comment or a string: a tab, or anything but the control characters. -/
def isPlain (c : Char) : Bool := c == '\t' || (0x20 ≤ c.toNat && c.toNat != 0x7F)

def skipBlanks (cs : List Char) : List Char := cs.dropWhile fun c => c == ' ' || c == '\t'

def lineEnd? : List Char → Option (List Char)
  | '\n' :: cs => some cs
  | '\r' :: '\n' :: cs => some cs
  | _ => none

def codePoint? (ds : List Char) : Option Char := do
  let n ← Text.readHex? ds
  if n < 0xD800 ∨ (0xE000 ≤ n ∧ n < 0x110000) then some (Char.ofNat n) else none

def escape? : Char → Option Char
  | 'b' => some '\x08'
  | 't' => some '\t'
  | 'n' => some '\n'
  | 'f' => some '\x0c'
  | 'r' => some '\r'
  | 'e' => some '\x1b'
  | '"' => some '"'
  | '\\' => some '\\'
  | _ => none

def digitCount? : Char → Option Nat
  | 'x' => some 2
  | 'u' => some 4
  | 'U' => some 8
  | _ => none

def readEscape? : List Char → Option (Char × List Char)
  | [] => none
  | c :: cs =>
    match digitCount? c with
    | some n => if cs.length < n then none else (codePoint? (cs.take n)).map fun d => (d, cs.drop n)
    | none => (escape? c).map fun d => (d, cs)

/-- Skips blanks and line ends after a backslash at the end of a line; `seen` tells whether one was met. -/
def skipLines? (seen : Bool) : List Char → Option (List Char)
  | '\n' :: cs => skipLines? true cs
  | '\r' :: '\n' :: cs => skipLines? true cs
  | c :: cs =>
    if c = ' ' ∨ c = '\t' then skipLines? seen cs else if seen then some (c :: cs) else none
  | [] => if seen then some [] else none

def readLine? (quote : Char) (escapes : Bool) : Nat → List Char → List Char → Option (String × List Char)
  | 0, _, _ => none
  | fuel + 1, read, c :: cs =>
    if c = quote then some (String.ofList read.reverse, cs)
    else if escapes ∧ c = '\\' then
      match readEscape? cs with
      | some (d, cs) => readLine? quote escapes fuel (d :: read) cs
      | none => none
    else if isPlain c then readLine? quote escapes fuel (c :: read) cs
    else none
  | _ + 1, _, [] => none

/-- Reads a string over several lines up to three quotes, before which one or two more may stand. -/
def readLines? (quote : Char) (escapes : Bool) : Nat → List Char → List Char → Option (String × List Char)
  | 0, _, _ => none
  | fuel + 1, read, cs =>
    match cs with
    | [] => none
    | c :: rest =>
      let quotes := cs.takeWhile (· == quote)
      if 3 ≤ quotes.length then
        if 5 < quotes.length then none
        else some (String.ofList (read.reverse ++ quotes.drop 3), cs.drop quotes.length)
      else if escapes ∧ c = '\\' then
        match skipLines? false rest with
        | some cs => readLines? quote escapes fuel read cs
        | none =>
          match readEscape? rest with
          | some (d, cs) => readLines? quote escapes fuel (d :: read) cs
          | none => none
      else
        match lineEnd? cs with
        | some cs => readLines? quote escapes fuel ('\n' :: read) cs
        | none => if isPlain c then readLines? quote escapes fuel (c :: read) rest else none

def readString? (quote : Char) (cs : List Char) : Option (String × List Char) :=
  let escapes := quote == '"'
  match cs with
  | a :: b :: rest =>
    if a = quote ∧ b = quote then
      let body := (lineEnd? rest).getD rest
      readLines? quote escapes (body.length + 1) [] body
    else readLine? quote escapes (cs.length + 1) [] cs
  | _ => readLine? quote escapes (cs.length + 1) [] cs

def readDigits? (isDigit : Char → Bool) : List Char → Option (List Char)
  | [] => none
  | c :: [] => if isDigit c then some [c] else none
  | c :: '_' :: cs => if isDigit c then (readDigits? isDigit cs).map (c :: ·) else none
  | c :: cs => if isDigit c then (readDigits? isDigit cs).map (c :: ·) else none

def isOctalDigit (c : Char) : Bool := '0' ≤ c && c ≤ '7'

def isBinaryDigit (c : Char) : Bool := c == '0' || c == '1'

def digitValue (c : Char) : Nat :=
  match Text.hexValue? c with
  | some d => d.val
  | none => 0

def ofBase (base : Nat) (ds : List Char) : Nat := ds.foldl (fun n c => base * n + digitValue c) 0

def readDecimal? (cs : List Char) : Option (List Char) :=
  match readDigits? Char.isDigit cs with
  | some ('0' :: _ :: _) => none
  | ds => ds

def splitSign : List Char → Bool × List Char
  | '-' :: cs => (true, cs)
  | '+' :: cs => (false, cs)
  | cs => (false, cs)

/-- The whole numbers that a document may hold, those of a 128-bit word, signed or not. -/
def inRange (i : Int) : Bool := -2 ^ 127 ≤ i && i < 2 ^ 128

def readInteger? (cs : List Char) : Option Item :=
  let based (base : Nat) (isDigit : Char → Bool) (ds : List Char) : Option Int :=
    (readDigits? isDigit ds).map fun ds => (ofBase base ds : Int)
  let value? : Option Int :=
    match cs with
    | '0' :: 'x' :: ds => based 16 (fun c => (Text.hexValue? c).isSome) ds
    | '0' :: 'o' :: ds => based 8 isOctalDigit ds
    | '0' :: 'b' :: ds => based 2 isBinaryDigit ds
    | cs =>
      let (negative, ds) := splitSign cs
      (readDecimal? ds).map fun ds => if negative then -(Number.ofDigits ds : Int) else Number.ofDigits ds
  value?.bind fun i => if inRange i then some (.integer i) else none

/-- A number with a fraction, an exponent or both, which has to be in the range of doubles; or a special name. -/
def readReal? (cs : List Char) : Option Item :=
  let (negative, cs) := splitSign cs
  if cs = ['i', 'n', 'f'] ∨ cs = ['n', 'a', 'n'] then some .real
  else do
    let mantissa := cs.takeWhile fun c => c != 'e' && c != 'E'
    let exponent ← match cs.drop mantissa.length with
      | [] => some 0
      | _ :: ds => do
        let (negative, ds) := splitSign ds
        let ds ← readDigits? Char.isDigit ds
        some (if negative then -(Number.ofDigits ds : Int) else Number.ofDigits ds)
    let whole := mantissa.takeWhile (· != '.')
    let wholeDigits ← readDecimal? whole
    let fraction ← match mantissa.drop whole.length with
      | [] => if mantissa.length = cs.length then none else some []
      | _ :: ds => readDigits? Char.isDigit ds
    if (Decimal.toDouble ⟨negative, wholeDigits ++ fraction, exponent - fraction.length⟩).isFinite then some .real
    else none

/-- Reads a time of day; its seconds may be missing. -/
def readTime? (cs : List Char) : Option (List Char) := do
  let (hour, cs) ← Calendar.readTwo? cs
  let cs ← Calendar.expect? ':' cs
  let (minute, cs) ← Calendar.readTwo? cs
  if 24 ≤ hour ∨ 60 ≤ minute then none
  else
    match cs with
    | ':' :: cs => do
      let (second, cs) ← Calendar.readTwo? cs
      let (_, cs) ← Calendar.readFraction? cs
      if 60 < second then none else some cs
    | cs => some cs

def readDate? (cs : List Char) : Option (List Char) := do
  let (year, cs) ← Calendar.readFour? cs
  let cs ← Calendar.expect? '-' cs
  let (month, cs) ← Calendar.readTwo? cs
  let cs ← Calendar.expect? '-' cs
  let (day, cs) ← Calendar.readTwo? cs
  let _ ← Date.of? year month day
  some cs

/-- A date, a time, or both with a letter or a space between them and perhaps an offset. -/
def readMoment? (cs : List Char) : Option Item :=
  match readDate? cs with
  | some [] => some .moment
  | some (c :: rest) =>
    if c = 'T' ∨ c = 't' ∨ c = ' ' then
      match readTime? rest with
      | some [] => some .moment
      | some offset =>
        match Calendar.readOffset? offset with
        | some (_, []) => some .moment
        | _ => none
      | none => none
    else none
  | none =>
    match readTime? cs with
    | some [] => some .moment
    | _ => none

def isBareScalar (c : Char) : Bool := c.isAlphanum || c == '+' || c == '-' || c == '_' || c == '.' || c == ':'

/-- The characters of a bare scalar; after a date, a space and a time may follow. -/
def takeBare (cs : List Char) : List Char × List Char :=
  let word := cs.takeWhile isBareScalar
  let rest := cs.drop word.length
  match readDate? word, rest with
  | some [], ' ' :: d :: _ =>
    if d.isDigit then
      let time := rest.tail.takeWhile isBareScalar
      (word ++ ' ' :: time, rest.tail.drop time.length)
    else (word, rest)
  | _, _ => (word, rest)

def ofBare? (word : List Char) : Option Item :=
  if word = ['t', 'r', 'u', 'e'] then some (.boolean true)
  else if word = ['f', 'a', 'l', 's', 'e'] then some (.boolean false)
  else (readInteger? word).or ((readReal? word).or (readMoment? word))

end RecordFilter.Toml
