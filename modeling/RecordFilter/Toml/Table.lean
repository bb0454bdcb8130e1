set_option autoImplicit false

namespace RecordFilter.Toml

/-- How a table came to be: by its own header, on the way to that of another table, or in a dotted key. -/
inductive Origin where
  | header | implied | dotted
deriving DecidableEq

inductive Item where
  | integer (i : Int)
  | boolean (b : Bool)
  | text (s : String)
  | real
  | moment
  | array (items : List Item)
  /-- A table that is written out in braces. -/
  | closed (entries : List (String × Item))
  | table (origin : Origin) (entries : List (String × Item))
  /-- The tables opened by a repeated header: the last one, and those before it. -/
  | tables (earlier : List (List (String × Item))) (last : List (String × Item))

abbrev Entries := List (String × Item)

namespace Entries

def replace (t : Entries) (key : String) (item : Item) : Entries :=
  t.map fun e => if e.1 = key then (key, item) else e

def add? (t : Entries) (key : String) (item : Item) : Option Entries :=
  if (t.lookup key).isSome then none else some (t ++ [(key, item)])

/-- Assigns to a key at the end of a dotted path. `isOpen` tells whether this table takes the key itself. -/
def assign? (isOpen : Bool) (item : Item) (key : String) : List String → Entries → Option Entries
  | [], t => if isOpen then t.add? key item else none
  | name :: path, t =>
    match t.lookup name with
    | none => (assign? true item key path []).map fun es => t ++ [(name, .table .dotted es)]
    | some (.table .header _) => none
    | some (.table .implied es) =>
      (assign? false item key path es).map fun es => t.replace name (.table .implied es)
    | some (.table .dotted es) =>
      (assign? true item key path es).map fun es => t.replace name (.table .dotted es)
    | some (.tables earlier es) =>
      (assign? false item key path es).map fun es => t.replace name (.tables earlier es)
    | some _ => none

/-- Changes the table at the end of a path of headers, making those that are not there. -/
def alter? (change : Entries → Option Entries) : List String → Entries → Option Entries
  | [], t => change t
  | name :: path, t =>
    match t.lookup name with
    | none => (alter? change path []).map fun es => t ++ [(name, .table .implied es)]
    | some (.table origin es) => (alter? change path es).map fun es => t.replace name (.table origin es)
    | some (.tables earlier es) => (alter? change path es).map fun es => t.replace name (.tables earlier es)
    | some _ => none

def openTable? (key : String) (t : Entries) : Option Entries :=
  match t.lookup key with
  | none => some (t ++ [(key, .table .header [])])
  | some (.table .implied es) => some (t.replace key (.table .header es))
  | some _ => none

def openElement? (key : String) (t : Entries) : Option Entries :=
  match t.lookup key with
  | none => some (t ++ [(key, .tables [] [])])
  | some (.tables earlier last) => some (t.replace key (.tables (earlier ++ [last]) []))
  | some _ => none

end Entries

end RecordFilter.Toml
