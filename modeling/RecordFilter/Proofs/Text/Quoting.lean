import RecordFilter.Literal

set_option autoImplicit false

namespace RecordFilter.Text

/-- The strings in a text, in order, after what has been read of one that is still open. There is no answer if a string
is open at the end. -/
def stringsFrom : Option (List Char) → List Char → Option (List (List Char))
  | none, [] => some []
  | none, '\'' :: cs => stringsFrom (some []) cs
  | none, _ :: cs => stringsFrom none cs
  | some _, [] => none
  | some read, '\'' :: '\'' :: cs => stringsFrom (some (read ++ ['\''])) cs
  | some read, '\'' :: cs => (stringsFrom none cs).map (read :: ·)
  | some read, c :: cs => stringsFrom (some (read ++ [c])) cs

def strings? (cs : List Char) : Option (List (List Char)) := stringsFrom none cs

theorem stringsFrom_close {rest : List Char} (closes : rest.head? ≠ some '\'') (read : List Char) :
    stringsFrom (some read) ('\'' :: rest) = (strings? rest).map (read :: ·) := by
  cases rest with
  | nil => rfl
  | cons d rest =>
    have other : d ≠ '\'' := fun quote => closes (congrArg some quote)
    simp [stringsFrom, other, strings?]

/-- Quotes that are written twice do not close a string. -/
theorem stringsFrom_quoted {rest : List Char} (closes : rest.head? ≠ some '\'') (cs read : List Char) :
    stringsFrom (some read) (cs.flatMap (fun c => if c = '\'' then ['\'', '\''] else [c]) ++ '\'' :: rest) =
      (strings? rest).map ((read ++ cs) :: ·) := by
  induction cs generalizing read with
  | nil => simpa using stringsFrom_close closes read
  | cons c cs ih =>
    rw [List.flatMap_cons, List.append_assoc]
    by_cases quote : c = '\''
    · have further := ih (read ++ ['\''])
      simpa [quote, stringsFrom] using further
    · have further := ih (read ++ [c])
      simpa [quote, stringsFrom] using further

theorem strings?_append {cs : List Char} (plain : '\'' ∉ cs) (rest : List Char) :
    strings? (cs ++ rest) = strings? rest := by
  induction cs with
  | nil => rfl
  | cons c cs ih =>
    rw [List.mem_cons, not_or] at plain
    have skipped : strings? (c :: (cs ++ rest)) = strings? (cs ++ rest) := by
      simp [strings?, stringsFrom, Ne.symm plain.1]
    rw [List.cons_append, skipped, ih plain.2]

/-- Adds the strings to those of any text that does not go on with a quote. -/
def Writes (cs : List Char) (strings : List (List Char)) : Prop :=
  ∀ rest : List Char, rest.head? ≠ some '\'' → strings? (cs ++ rest) = (strings? rest).map (strings ++ ·)

theorem writes_plain {cs : List Char} (plain : '\'' ∉ cs) : Writes cs [] := by
  intro rest _
  rw [strings?_append plain]
  simp

theorem writes_quoted (cs : List Char) : Writes (Literal.quoted cs) [cs] := by
  intro rest closes
  have read := stringsFrom_quoted closes cs []
  rw [Literal.quoted, List.append_assoc, List.cons_append]
  exact read

namespace Writes

variable {cs ds : List Char} {strings further : List (List Char)}

theorem strings? (h : Writes cs strings) : Text.strings? cs = some strings := by
  have alone := h [] (by simp)
  rw [List.append_nil] at alone
  simpa [Text.strings?, stringsFrom] using alone

/-- A quote right behind a string would be read as the first half of a quote inside it. -/
theorem append (h : Writes cs strings) (h' : Writes ds further) (apart : ds.head? ≠ some '\'') :
    Writes (cs ++ ds) (strings ++ further) := by
  intro rest closes
  have behind : (ds ++ rest).head? ≠ some '\'' := by
    cases ds with
    | nil => exact closes
    | cons d ds => exact apart
  rw [List.append_assoc, h (ds ++ rest) behind, h' rest closes, Option.map_map]
  congr 1
  funext last
  exact (List.append_assoc strings further last).symm

theorem after (h : Writes ds further) (plain : '\'' ∉ cs) : Writes (cs ++ ds) further := by
  intro rest closes
  rw [List.append_assoc, strings?_append plain, h rest closes]

theorem before (h : Writes cs strings) (plain : '\'' ∉ ds) : Writes (cs ++ ds) strings := by
  have apart : ds.head? ≠ some '\'' := fun first => plain (List.mem_of_mem_head? first)
  have both := h.append (writes_plain plain) apart
  rwa [List.append_nil] at both

end Writes

end RecordFilter.Text
