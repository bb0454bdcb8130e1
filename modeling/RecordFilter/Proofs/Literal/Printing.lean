import RecordFilter.Proofs.Calendar.Printing
import RecordFilter.Proofs.Guid
import RecordFilter.Proofs.Value.Reading

set_option autoImplicit false

namespace RecordFilter

open Text (isMark)

theorem Text.quote_not_mem_of_isMark {cs : List Char} (marks : ∀ c ∈ cs, isMark c = true) : '\'' ∉ cs := fun quote =>
  Bool.noConfusion (marks '\'' quote)

namespace Literal

variable {type : DataType} {raw : String} {l : Literal}

theorem quoted_of_not_mem {cs : List Char} (h : '\'' ∉ cs) : quoted cs = '\'' :: cs ++ ['\''] := by
  have kept : cs.flatMap (fun c => if c = '\'' then ['\'', '\''] else [c]) = cs := by
    rw [List.flatMap_congr fun c listed => if_neg (ne_of_mem_of_not_mem listed h), List.flatMap_singleton']
  rw [quoted, kept]

def isPlain : Literal → Bool
  | text _ => false
  | integer _ | number _ | bool _ | guid _ | dateTime _ | date _ => true

theorem quote_not_mem_bare (plain : l.isPlain = true) : '\'' ∉ l.bare := by
  cases l with
  | text s => cases plain
  | integer i => exact Text.quote_not_mem_of_isMark Number.isMark_of_mem_intText
  | number x => exact Text.quote_not_mem_of_isMark x.isMark_of_mem_text
  | bool b => cases b <;> decide
  | guid g => exact Text.quote_not_mem_of_isMark g.isMark_of_mem_text
  | date d => exact Text.quote_not_mem_of_isMark d.isMark_of_mem_text
  | dateTime t =>
    have time : '\'' ∉ t.time.text := Text.quote_not_mem_of_isMark t.time.isMark_of_mem_text
    have date : '\'' ∉ t.date.text := Text.quote_not_mem_of_isMark t.date.isMark_of_mem_text
    simp [bare, DateTime.text, date, time]

/-- What is shown before the bare literal: the name of a kind of time, and a quote unless it is a number or a truth
value. -/
def opening : Literal → List Char
  | text _ | guid _ => "'".toList
  | dateTime _ => "TIMESTAMP '".toList
  | date _ => "DATE '".toList
  | integer _ | number _ | bool _ => []

def closing : Literal → List Char
  | text _ | guid _ | dateTime _ | date _ => "'".toList
  | integer _ | number _ | bool _ => []

theorem shown_eq (plain : l.isPlain = true) : l.shown = l.opening ++ l.bare ++ l.closing := by
  have single := quoted_of_not_mem (quote_not_mem_bare plain)
  cases l with
  | text s => cases plain
  | integer i | number x | bool b => exact (List.append_nil _).symm
  | guid g => exact single
  | dateTime t => exact congrArg ("TIMESTAMP ".toList ++ ·) single
  | date d => exact congrArg ("DATE ".toList ++ ·) single

def isExact : Literal → Bool
  | text _ | number _ => false
  | integer _ | bool _ | guid _ | dateTime _ | date _ => true

theorem readNumber?_integer (i : Whole) : readNumber? (integer i).bare = some (integer i) := by
  have own : Whole.read? i.text = some i := by
    rw [Whole.read?, Whole.text, Number.readInt?_intText]
    exact i.ofInt?_toInt
  rw [bare, readNumber?, own]

theorem read?_bare (typed : l.IsOf type) (exact : l.isExact = true) :
    read? type (String.ofList l.bare) = some l := by
  unfold read?
  rw [String.toList_ofList]
  cases typed with
  | text s | number finite => cases exact
  | integer i =>
    have trimmed := Text.isTrimmed_of_isMark (Number.isMark_of_mem_intText (i := i.toInt))
    simp only [Text.trim_eq_self_iff.2 trimmed, bare, Whole.text]
    exact readNumber?_integer i
  | bool b => cases b <;> rfl
  | guid g =>
    simp only [bare, Text.trim_eq_self_iff.2 (Text.isTrimmed_of_isMark g.isMark_of_mem_text), g.read?_text]
    rfl
  | dateTime t =>
    simp only [bare, DateTime.read?_trim, t.read?_text]
    rfl
  | date d =>
    simp only [bare, Date.read?_trim, d.read?_text]
    rfl

/-- A whole number, a truth value, a guid, a date-time or a date that was read is read again, with the same result,
from what stands between the fixed beginning and end of its explanation. -/
theorem ofText_bare (read : ofText type raw = .ok l) (exact : l.isExact = true) :
    ofText type (String.ofList l.bare) = .ok l ∧ l.shown = l.opening ++ l.bare ++ l.closing := by
  have plain : l.isPlain = true := by
    cases l with
    | text s | number x => cases exact
    | _ => rfl
  exact ⟨ofText_eq_ok_iff.2 (read?_bare (isOf_of_ofText read) exact), shown_eq plain⟩

def lastSecond : DateTime :=
  ⟨⟨10000, 6, 30, by decide, by decide, by decide, by decide, by decide, by decide⟩,
    ⟨23, 59, 60, 123456789, by decide, by decide, by decide, by decide⟩⟩

theorem ofText_bare_lastSecond :
    ofText .dateTime "+10000-06-30T23:59:60.1234567891" = .ok (dateTime lastSecond) ∧
      (dateTime lastSecond).bare = "+10000-06-30 23:59:60.123456789".toList ∧
      ofText .dateTime (String.ofList (dateTime lastSecond).bare) = .ok (dateTime lastSecond) := by
  have own : DateTime.read? (Text.trim "+10000-06-30T23:59:60.1234567891".toList) = some lastSecond := by
    decide +kernel
  have read : ofText .dateTime "+10000-06-30T23:59:60.1234567891" = .ok (dateTime lastSecond) := by
    rw [ofText_eq_ok_iff, read?]
    exact congrArg (Option.map dateTime) own
  exact ⟨read, by decide +kernel, (ofText_bare read rfl).1⟩

end Literal

end RecordFilter
