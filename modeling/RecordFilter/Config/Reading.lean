import RecordFilter.Config.Basic
import RecordFilter.Error
import RecordFilter.Number.Word
import RecordFilter.Text.Blank
import RecordFilter.Toml.Reader

set_option autoImplicit false

namespace RecordFilter.Config

def count? : Toml.Item → Option Nat
  | .integer i => if 0 ≤ i ∧ i ≤ Word.max then some i.toNat else none
  | _ => none

def flag? : Toml.Item → Option Bool
  | .boolean b => some b
  | _ => none

def setting? {α : Type} (t : Toml.Entries) (key : String) (default : α) (read : Toml.Item → Option α) : Option α :=
  match t.lookup key with
  | none => some default
  | some item => read item

def ofEntries? (t : Toml.Entries) : Option Config := do
  let maxGroupDepth ← setting? t "max_group_depth" standard.maxGroupDepth count?
  let maxInValues ← setting? t "max_in_values" standard.maxInValues count?
  let maxPageSize ← setting? t "max_page_size" standard.maxPageSize fun i => (count? i).map some
  let parallelSets ← setting? t "parallel_sets" standard.parallelSets flag?
  some ⟨maxGroupDepth, maxInValues, maxPageSize, parallelSets⟩

def ofText (s : String) : Except FilterError Config :=
  match (Toml.ofText? s).bind ofEntries? with
  | some config => .ok config
  | none => .error .config

/-- A count in a variable, with blanks around it and perhaps a plus sign. -/
def countVariable? (s : String) : Option Nat :=
  (Number.readUnsigned? (Text.trim s.toList)).filter fun n => n ≤ Word.max

def flagVariable (s : String) : Bool :=
  ["1", "true", "yes"].contains (String.ofList (s.toList.map Char.toLower))

def withEnvironment (config : Config) (environment : String → Option String) : Config where
  maxGroupDepth := ((environment "MAX_GROUP_DEPTH").bind countVariable?).getD config.maxGroupDepth
  maxInValues := ((environment "MAX_IN_VALUES").bind countVariable?).getD config.maxInValues
  maxPageSize := ((environment "MAX_PAGE_SIZE").bind countVariable?).or config.maxPageSize
  parallelSets := ((environment "PARALLEL_SETS").map flagVariable).getD config.parallelSets

def load (file : Option String) (environment : String → Option String) : Except FilterError Config :=
  match file with
  | none => .error (.io "No such file or directory (os error 2)")
  | some s => (ofText s).map fun config => config.withEnvironment environment

def text (config : Config) : String :=
  s!"max_group_depth = {config.maxGroupDepth}\nmax_in_values = {config.maxInValues}\n" ++
    (match config.maxPageSize with | some n => s!"max_page_size = {n}\n" | none => "") ++
    (if config.parallelSets then "parallel_sets = true\n" else "parallel_sets = false\n")

end RecordFilter.Config
