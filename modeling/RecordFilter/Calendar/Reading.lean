import RecordFilter.Calendar.DateTime
import RecordFilter.Text.Blank

set_option autoImplicit false

namespace RecordFilter.Calendar

def readDigits? (width : Nat) (cs : List Char) : Option (Nat × List Char) :=
  let ds := (cs.take width).takeWhile Char.isDigit
  if ds.isEmpty then none else some (Number.ofDigits ds, cs.drop ds.length)

def readTwo? : List Char → Option (Nat × List Char)
  | a :: b :: cs => if a.isDigit ∧ b.isDigit then some (Number.ofDigits [a, b], cs) else none
  | _ => none

def readFour? : List Char → Option (Nat × List Char)
  | a :: b :: c :: d :: cs =>
    if a.isDigit ∧ b.isDigit ∧ c.isDigit ∧ d.isDigit then some (Number.ofDigits [a, b, c, d], cs) else none
  | _ => none

def expect? (c : Char) : List Char → Option (List Char)
  | d :: cs => if d = c then some cs else none
  | [] => none

/-- A point and at least one digit, of which those after the ninth do not count; or nothing, for zero. -/
def readFraction? : List Char → Option (Nat × List Char)
  | '.' :: cs =>
    let ds := cs.takeWhile Char.isDigit
    let kept := ds.take 9
    if ds.isEmpty then none else some (Number.ofDigits kept * Nat.pow 10 (9 - kept.length), cs.drop ds.length)
  | cs => some (0, cs)

/-- The offset from universal time in minutes: the letter for zero, or a sign, hours and minutes. -/
def readOffset? : List Char → Option (Int × List Char)
  | [] => none
  | c :: cs =>
    if c = 'Z' ∨ c = 'z' then some (0, cs)
    else if c = '+' ∨ c = '-' ∨ c = '−' then do
      let (hours, cs) ← readTwo? cs
      let cs ← expect? ':' cs
      let (minutes, cs) ← readTwo? cs
      if hours < 24 ∧ minutes < 60 then
        let offset : Int := 60 * hours + minutes
        some (if c = '+' then offset else -offset, cs)
      else none
    else none

def readTimestamp? (cs : List Char) : Option DateTime := do
  let (year, cs) ← readFour? cs
  let cs ← expect? '-' cs
  let (month, cs) ← readTwo? cs
  let cs ← expect? '-' cs
  let (day, cs) ← readTwo? cs
  let cs ← match cs with
    | c :: cs => if c = 'T' ∨ c = 't' ∨ c = ' ' then some cs else none
    | [] => none
  let (hour, cs) ← readTwo? cs
  let cs ← expect? ':' cs
  let (minute, cs) ← readTwo? cs
  let cs ← expect? ':' cs
  let (second, cs) ← readTwo? cs
  let (nanosecond, cs) ← readFraction? cs
  let (offset, cs) ← readOffset? cs
  if cs.isEmpty then
    let date ← Date.of? year month day
    let time ← Time.of? hour minute second nanosecond
    DateTime.back? ⟨date, time⟩ offset
  else none

inductive Part where
  | year | month | day | hour | minute | second | fraction
  | mark (c : Char)
  | blanks

structure Parts where
  year : Int
  month : Nat
  day : Nat
  hour : Nat
  minute : Nat
  second : Nat
  nanosecond : Nat

/-- At most four digits, or a sign and any number of them. -/
def readYear? (cs : List Char) : Option (Int × List Char) :=
  match cs with
  | '-' :: r => (readDigits? r.length r).map fun (n, r) => (-(n : Int), r)
  | '+' :: r => (readDigits? r.length r).map fun (n, r) => ((n : Int), r)
  | r => (readDigits? 4 r).map fun (n, r) => ((n : Int), r)

/-- At most two digits, after any blanks. -/
def readShort? (cs : List Char) : Option (Nat × List Char) := readDigits? 2 (Text.trimStart cs)

def Part.read? (p : Parts) (cs : List Char) : Part → Option (Parts × List Char)
  | .year => (readYear? (Text.trimStart cs)).map fun (n, r) => ({ p with year := n }, r)
  | .month => (readShort? cs).map fun (n, r) => ({ p with month := n }, r)
  | .day => (readShort? cs).map fun (n, r) => ({ p with day := n }, r)
  | .hour => (readShort? cs).map fun (n, r) => ({ p with hour := n }, r)
  | .minute => (readShort? cs).map fun (n, r) => ({ p with minute := n }, r)
  | .second => (readShort? cs).map fun (n, r) => ({ p with second := n }, r)
  | .fraction => (readFraction? cs).map fun (n, r) => ({ p with nanosecond := n }, r)
  | .mark c => (expect? c cs).map fun r => (p, r)
  | .blanks => some (p, Text.trimStart cs)

def readParts? (p : Parts) (cs : List Char) : List Part → Option Parts
  | [] => if cs.isEmpty then some p else none
  | part :: pattern =>
    match part.read? p cs with
    | some (q, rest) => readParts? q rest pattern
    | none => none

def readPattern? (pattern : List Part) (cs : List Char) : Option DateTime := do
  let p ← readParts? ⟨0, 0, 0, 0, 0, 0, 0⟩ cs pattern
  let date ← Date.of? p.year p.month p.day
  let time ← Time.of? p.hour p.minute p.second p.nanosecond
  some ⟨date, time⟩

def datePattern : List Part := [.year, .mark '-', .month, .mark '-', .day]

def minutePattern : List Part := [.hour, .mark ':', .minute]

def secondPattern : List Part := minutePattern ++ [.mark ':', .second, .fraction]

/-- The patterns of a local date-time, in the order in which they are tried. -/
def dateTimePatterns : List (List Part) :=
  [datePattern ++ .mark 'T' :: secondPattern, datePattern ++ .blanks :: secondPattern,
    datePattern ++ .mark 'T' :: minutePattern, datePattern ++ .blanks :: minutePattern]

end Calendar

namespace Date

def readPlain? (cs : List Char) : Option Date := (Calendar.readPattern? Calendar.datePattern cs).map (·.date)

end Date

namespace DateTime

/-- Reads a timestamp, a local date-time, or a date, which stands for its midnight. -/
def read? (cs : List Char) : Option DateTime :=
  let cs := Text.trim cs
  (Calendar.readTimestamp? cs).or
    ((Calendar.dateTimePatterns.findSome? (Calendar.readPattern? · cs)).or ((Date.readPlain? cs).map Date.midnight))

end DateTime

namespace Date

def read? (cs : List Char) : Option Date :=
  (readPlain? (Text.trim cs)).or ((DateTime.read? cs).map (·.date))

end Date

end RecordFilter
