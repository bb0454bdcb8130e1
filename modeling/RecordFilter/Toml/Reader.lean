import RecordFilter.Toml.Scalar

set_option autoImplicit false

namespace RecordFilter.Toml

def isBareKey (c : Char) : Bool := c.isAlphanum || c == '_' || c == '-'

def skipComment? : List Char → Option (List Char)
  | '#' :: cs =>
    match cs.dropWhile isPlain with
    | [] => some []
    | '\n' :: r => some ('\n' :: r)
    | '\r' :: '\n' :: r => some ('\n' :: r)
    | _ => none
  | cs => some cs

def skipAll? : Nat → List Char → Option (List Char)
  | 0, _ => none
  | fuel + 1, cs =>
    match skipComment? (skipBlanks cs) with
    | none => none
    | some cs =>
      match lineEnd? cs with
      | some cs => skipAll? fuel cs
      | none => some cs

def readEqual? (cs : List Char) : Option (List Char) :=
  match skipAll? (cs.length + 1) cs with
  | some ('=' :: cs) => skipAll? (cs.length + 1) cs
  | _ => none

def readName? : List Char → Option (String × List Char)
  | '"' :: cs => readLine? '"' true (cs.length + 1) [] cs
  | '\'' :: cs => readLine? '\'' false (cs.length + 1) [] cs
  | cs =>
    match cs.takeWhile isBareKey with
    | [] => none
    | name => some (String.ofList name, cs.drop name.length)

/-- Reads a dotted key of no more than so many names: those before the last, and the last. -/
def readKeyOf? : Nat → List Char → Option ((List String × String) × List Char)
  | 0, _ => none
  | names + 1, cs => do
    let (name, cs) ← readName? (skipBlanks cs)
    match skipBlanks cs with
    | '.' :: cs => do
      let ((path, last), cs) ← readKeyOf? names cs
      some ((name :: path, last), cs)
    | cs => some (([], name), cs)

/-- How deep arrays and tables may be written inside one another, and how many names a key may have. -/
def maxNesting : Nat := 80

def readKey? (cs : List Char) : Option ((List String × String) × List Char) := readKeyOf? maxNesting cs

mutual

def readValue? (room : Nat) : Nat → List Char → Option (Item × List Char)
  | 0, _ => none
  | fuel + 1, cs =>
    match cs with
    | '"' :: cs => (readString? '"' cs).map fun (s, cs) => (.text s, cs)
    | '\'' :: cs => (readString? '\'' cs).map fun (s, cs) => (.text s, cs)
    | '[' :: cs => if room = 0 then none else (readItems? (room - 1) fuel [] cs).map fun (is, cs) => (.array is, cs)
    | '{' :: cs =>
      if room = 0 then none else (readEntries? (room - 1) fuel [] cs).map fun (t, cs) => (.closed t, cs)
    | cs =>
      let (word, rest) := takeBare cs
      (ofBare? word).map fun i => (i, rest)

/-- Reads the items of an array up to its bracket; a comma may follow the last. -/
def readItems? (room : Nat) : Nat → List Item → List Char → Option (List Item × List Char)
  | 0, _, _ => none
  | fuel + 1, items, cs =>
    match skipAll? (cs.length + 1) cs with
    | none => none
    | some (']' :: cs) => some (items, cs)
    | some cs =>
      match readValue? room fuel cs with
      | none => none
      | some (item, cs) =>
        match skipAll? (cs.length + 1) cs with
        | some (',' :: cs) => readItems? room fuel (items ++ [item]) cs
        | some (']' :: cs) => some (items ++ [item], cs)
        | _ => none

/-- Reads the entries of a table in braces up to its end. Lines may end anywhere but inside a key, and a comma may
follow the last entry. -/
def readEntries? (room : Nat) : Nat → Entries → List Char → Option (Entries × List Char)
  | 0, _, _ => none
  | fuel + 1, t, cs =>
    match skipAll? (cs.length + 1) cs with
    | none => none
    | some ('}' :: cs) => some (t, cs)
    | some cs =>
      match readKey? cs with
      | none => none
      | some ((path, key), cs) =>
        match readEqual? cs with
        | none => none
        | some cs =>
          match readValue? room fuel cs with
          | none => none
          | some (item, cs) =>
            match t.assign? true item key path, skipAll? (cs.length + 1) cs with
            | some t, some (',' :: cs) => readEntries? room fuel t cs
            | some t, some ('}' :: cs) => some (t, cs)
            | _, _ => none

end

def endLine? (cs : List Char) : Option (List Char) :=
  match skipComment? (skipBlanks cs) with
  | some [] => some []
  | some cs => lineEnd? cs
  | none => none

structure Document where
  root : Entries
  current : List String

namespace Document

def assign? (d : Document) (path : List String) (key : String) (item : Item) : Option Document :=
  (d.root.alter? (fun t => t.assign? true item key path) d.current).map fun root => { d with root }

def openTable? (d : Document) (path : List String) (key : String) : Option Document :=
  (d.root.alter? (·.openTable? key) path).map fun root => ⟨root, path ++ [key]⟩

def openElement? (d : Document) (path : List String) (key : String) : Option Document :=
  (d.root.alter? (·.openElement? key) path).map fun root => ⟨root, path ++ [key]⟩

/-- Reads one line, which is not blank, and what its value needs of the lines after it. -/
def line? (d : Document) (cs : List Char) : Option (Document × List Char) :=
  match cs with
  | '[' :: '[' :: cs => do
    let ((path, key), cs) ← readKey? cs
    match cs with
    | ']' :: ']' :: cs => do
      let d ← d.openElement? path key
      let cs ← endLine? cs
      some (d, cs)
    | _ => none
  | '[' :: cs => do
    let ((path, key), cs) ← readKey? cs
    match cs with
    | ']' :: cs => do
      let d ← d.openTable? path key
      let cs ← endLine? cs
      some (d, cs)
    | _ => none
  | cs => do
    let ((path, key), cs) ← readKey? cs
    match cs with
    | '=' :: cs => do
      let (item, cs) ← readValue? maxNesting (2 * cs.length + 2) (skipBlanks cs)
      let d ← d.assign? path key item
      let cs ← endLine? cs
      some (d, cs)
    | _ => none

def lines? : Nat → Document → List Char → Option Document
  | 0, _, _ => none
  | fuel + 1, d, cs =>
    match skipAll? (cs.length + 1) cs with
    | none => none
    | some [] => some d
    | some cs =>
      match d.line? cs with
      | some (d, cs) => lines? fuel d cs
      | none => none

end Document

def ofText? (s : String) : Option Entries :=
  let cs := match s.toList with
    | '\uFEFF' :: cs => cs
    | cs => cs
  (Document.lines? (cs.length + 1) ⟨[], []⟩ cs).map (·.root)

end RecordFilter.Toml
