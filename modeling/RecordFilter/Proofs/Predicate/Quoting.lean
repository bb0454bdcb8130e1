import RecordFilter.Predicate.Explain
import RecordFilter.Proofs.Literal.Printing
import RecordFilter.Proofs.Pattern.Search
import RecordFilter.Proofs.Text.Quoting

set_option autoImplicit false

namespace RecordFilter

open Text (Writes writes_plain writes_quoted strings?)

def Literal.strings : Literal → List (List Char)
  | .integer _ | .number _ | .bool _ => []
  | .text s => [s.toList]
  | .guid g => [g.text]
  | .dateTime t => [t.text]
  | .date d => [d.text]

namespace Predicate

mutual

/-- The strings of a predicate from left to right. A pattern is followed by the character that escapes in it. -/
def strings : Predicate → List (List Char)
  | always | isNull _ | isNotNull _ => []
  | and ps | or ps => stringsOfAll ps
  | not p | anyElement _ p => strings p
  | compare _ _ value _ => value.strings
  | like _ pattern _ _ => [pattern.text.toList, [LikePattern.escape]]

def stringsOfAll : List Predicate → List (List Char)
  | [] => []
  | p :: ps => strings p ++ stringsOfAll ps

end

mutual

def fields : Predicate → List FieldRef
  | always => []
  | and ps | or ps => fieldsOfAll ps
  | not p => fields p
  | isNull field | isNotNull field | compare field _ _ _ | like field _ _ _ => [field]
  | anyElement collection p => collection :: fields p

def fieldsOfAll : List Predicate → List FieldRef
  | [] => []
  | p :: ps => fields p ++ fieldsOfAll ps

end

end Predicate

def FieldRef.IsUnquoted (field : FieldRef) : Prop := ∀ name ∈ field, '\'' ∉ name.toList

theorem Text.not_mem_intercalate {c : Char} {separator : List Char} {parts : List (List Char)}
    (apart : c ∉ separator) (h : ∀ part ∈ parts, c ∉ part) : c ∉ separator.intercalate parts := by
  induction parts with
  | nil => exact List.not_mem_nil
  | cons first rest ih =>
    have later := ih fun part listed => h part (List.mem_cons_of_mem first listed)
    cases rest with
    | nil => simpa using h
    | cons second rest =>
      rw [List.intercalate_cons_cons, List.mem_append, List.mem_append, not_or, not_or]
      exact ⟨⟨h first List.mem_cons_self, apart⟩, later⟩

namespace FieldRef

variable {field : FieldRef}

theorem quote_not_mem_shown (unquoted : field.IsUnquoted) : '\'' ∉ field.shown := by
  unfold shown
  split
  · decide
  · rw [String.toList_intercalate]
    exact Text.not_mem_intercalate (by decide) (List.forall_mem_map.2 unquoted)

theorem quote_not_mem_call {name : String} {argument : List Char} (plainName : '\'' ∉ name.toList)
    (plain : '\'' ∉ argument) : '\'' ∉ Predicate.call name argument := by
  simp [Predicate.call, plainName, plain]

theorem quote_not_mem_shownField (unquoted : field.IsUnquoted) (foldCase onDate : Bool) :
    '\'' ∉ Predicate.shownField field foldCase onDate := by
  have plain := quote_not_mem_shown unquoted
  unfold Predicate.shownField
  split
  · exact quote_not_mem_call (by decide) plain
  split
  · exact quote_not_mem_call (by decide) plain
  · exact plain

end FieldRef

theorem Literal.writes_shown (l : Literal) : Writes l.shown l.strings := by
  cases l with
  | text s => exact writes_quoted s.toList
  | guid g => exact writes_quoted g.text
  | dateTime t => exact (writes_quoted t.text).after (by decide)
  | date d => exact (writes_quoted d.text).after (by decide)
  | integer i => exact writes_plain (quote_not_mem_bare (l := .integer i) rfl)
  | number x => exact writes_plain (quote_not_mem_bare (l := .number x) rfl)
  | bool b => exact writes_plain (quote_not_mem_bare (l := .bool b) rfl)

theorem Text.Writes.call {cs : List Char} {strings : List (List Char)} (h : Writes cs strings) {name : String}
    (plain : '\'' ∉ name.toList) : Writes (Predicate.call name cs) strings := by
  have parenthesis : '\'' ∉ ['('] := by decide
  exact ((h.after parenthesis).after plain).before (by decide)

theorem Comparison.quote_not_mem_symbol (op : Comparison) : '\'' ∉ op.symbol.toList := by
  cases op <;> decide

namespace Predicate

theorem head?_shownRest {separator : List Char} (starts : separator.head? = some ' ') (ps : List Predicate) :
    (shownRest separator ps).head? ≠ some '\'' := by
  cases ps with
  | nil =>
    rw [shownRest]
    decide
  | cons p ps =>
    obtain ⟨rest, rfl⟩ := List.head?_eq_some_iff.1 starts
    rw [shownRest]
    simp

theorem writes_joined {cs rest : List Char} {strings further : List (List Char)} (first : Writes cs strings)
    (last : Writes rest further) (apart : rest.head? ≠ some '\'') :
    Writes ('(' :: cs ++ rest) (strings ++ further) := by
  have parenthesis : '\'' ∉ ['('] := by decide
  exact (first.after parenthesis).append last apart

mutual

theorem writes_shown : ∀ (p : Predicate), (∀ field ∈ p.fields, field.IsUnquoted) → Writes p.shown p.strings
  | always, _ => writes_plain (by decide)
  | and [], _ => writes_plain (by decide)
  | or [], _ => writes_plain (by decide)
  | and (p :: ps), h => by
    have first := writes_shown p fun field listed => h field (List.mem_append_left _ listed)
    have rest := writes_shownRest " AND ".toList (by decide) rfl ps fun field listed =>
      h field (List.mem_append_right _ listed)
    rw [shown]
    exact writes_joined first rest (head?_shownRest rfl ps)
  | or (p :: ps), h => by
    have first := writes_shown p fun field listed => h field (List.mem_append_left _ listed)
    have rest := writes_shownRest " OR ".toList (by decide) rfl ps fun field listed =>
      h field (List.mem_append_right _ listed)
    rw [shown]
    exact writes_joined first rest (head?_shownRest rfl ps)
  | not p, h => by
    rw [shown]
    exact (writes_shown p h).after (by decide)
  | isNull field, h => by
    have name := FieldRef.quote_not_mem_shown (h field (List.mem_singleton_self _))
    rw [shown]
    exact writes_plain (by simp [name])
  | isNotNull field, h => by
    have name := FieldRef.quote_not_mem_shown (h field (List.mem_singleton_self _))
    rw [shown]
    exact writes_plain (by simp [name])
  | compare field op value foldCase, h => by
    have name := FieldRef.quote_not_mem_shownField (h field (List.mem_singleton_self _)) foldCase value.isDate
    have front : '\'' ∉ shownField field foldCase value.isDate ++ ' ' :: op.symbol.toList := by
      simp [name, op.quote_not_mem_symbol]
    have blank : '\'' ∉ [' '] := by decide
    rw [shown]
    exact (value.writes_shown.after blank).after front
  | like field pattern foldCase negated, h => by
    have name := FieldRef.quote_not_mem_shownField (h field (List.mem_singleton_self _)) foldCase false
    have word : '\'' ∉ (if negated then " NOT LIKE ".toList else " LIKE ".toList) := by
      cases negated <;> decide
    have matched := (writes_quoted pattern.text.toList).after (List.not_mem_append name word)
    have clause : '\'' ∉ " ESCAPE ".toList := by decide
    have escaped := (writes_quoted [LikePattern.escape]).after clause
    rw [shown, List.append_assoc]
    exact matched.append escaped (by decide)
  | anyElement collection p, h => by
    have name := FieldRef.quote_not_mem_shown (h collection List.mem_cons_self)
    have inner := writes_shown p fun field listed => h field (List.mem_cons_of_mem _ listed)
    have colon : '\'' ∉ [':', ' '] := by decide
    rw [shown]
    exact ((inner.after colon).after name).call (by decide)

theorem writes_shownRest (separator : List Char) (plain : '\'' ∉ separator) (starts : separator.head? = some ' ') :
    ∀ (ps : List Predicate), (∀ field ∈ fieldsOfAll ps, field.IsUnquoted) →
      Writes (shownRest separator ps) (stringsOfAll ps)
  | [], _ => by
    rw [shownRest]
    exact writes_plain (by decide)
  | p :: ps, h => by
    have first := writes_shown p fun field listed => h field (List.mem_append_left _ listed)
    have rest := writes_shownRest separator plain starts ps fun field listed => h field (List.mem_append_right _ listed)
    rw [shownRest]
    exact (first.after plain).append rest (head?_shownRest starts ps)

end

end Predicate

namespace LikePattern

/-- Takes a text out of a pattern: what follows a backslash stands for itself. -/
def unescaped : List Char → List Char
  | [] => []
  | '\\' :: c :: cs => c :: unescaped cs
  | c :: cs => c :: unescaped cs

theorem unescaped_escaped (cs : List Char) : unescaped (escaped cs) = cs := by
  induction cs with
  | nil => rfl
  | cons c cs ih =>
    rw [escaped_cons]
    split
    · rw [unescaped, ih]
    · rename_i plain
      rw [unescaped, ih]
      rintro d rest rfl
      exact absurd (.inl rfl) plain

end LikePattern

namespace Place

/-- What stands in a pattern before the text that is looked for at the place, and after it. -/
def wildcards : Place → List Char × List Char
  | anywhere => (['%'], ['%'])
  | atStart => ([], ['%'])
  | atEnd => (['%'], [])

theorem exists_body (place : Place) (s : String) :
    ∃ body, (place.pattern s).text.toList = place.wildcards.1 ++ body ++ place.wildcards.2 ∧
      LikePattern.unescaped body = s.toList := by
  refine ⟨LikePattern.escaped s.toList, ?_, LikePattern.unescaped_escaped s.toList⟩
  cases place with
  | anywhere | atStart => rw [pattern]; exact String.toList_ofList
  | atEnd => rw [pattern]; exact String.toList_ofList.trans (List.append_nil _).symm

end Place

namespace Hop

theorem strings_nest (p : Predicate) (levels : Nat) : (nest p levels).strings = p.strings := by
  induction levels with
  | zero => rfl
  | succ levels ih => exact ih

theorem strings_foldr_wrap (hops : List Hop) (p : Predicate) : (hops.foldr wrap p).strings = p.strings := by
  induction hops with
  | nil => rfl
  | cons hop hops ih => exact (strings_nest _ _).trans ih

end Hop

namespace Condition

variable {c : Condition} {place : Place} {negated : Bool}

theorem body_search (searches : c.operator.search? = some (place, negated)) (field : FieldRef) (s : String) :
    c.body field [.text s] = .ok (.like field (place.pattern s) c.operator.isCaseInsensitive negated) := by
  obtain ⟨sort, name, type, o, values⟩ := c
  cases o <;> cases searches <;> rfl

theorem strings_of_search (searches : c.operator.search? = some (place, negated)) {path : ResolvedPath} {s : String}
    {p : Predicate} (h : c.predicate path [.text s] = .ok p) :
    p.strings = [(place.pattern (c.operator.cased s)).text.toList, [LikePattern.escape]] := by
  unfold predicate at h
  simp only [map_folded, Operator.isNullTest_of_search searches] at h
  rw [List.map_singleton, Operator.folded_text, body_search searches] at h
  cases h
  exact Hop.strings_foldr_wrap _ _

end Condition

/-- No value breaks out of its quotes: a reader of strings between quotes finds in an explanation just the strings of
the predicate, from left to right. The quotes around a literal that is no text have nothing to double. The pattern of a
condition that searches is shown so that the text can be taken out of it again. -/
theorem Compiler.strings?_explain :
    (∀ p : Predicate, (∀ field ∈ p.fields, field.IsUnquoted) → strings? p.explain.toList = some p.strings) ∧
    (∀ l : Literal, l.isPlain = true → l.shown = l.opening ++ l.bare ++ l.closing ∧ '\'' ∉ l.bare) ∧
    ∀ (k : Compiler) (c : Condition) (p : Predicate) (place : Place) (negated : Bool),
      c.operator.search? = some (place, negated) → k.compileCondition c = .ok p →
      (∀ field ∈ p.fields, field.IsUnquoted) →
      ∃ s body, c.values = [s] ∧
        strings? p.explain.toList = some [place.wildcards.1 ++ body ++ place.wildcards.2, [LikePattern.escape]] ∧
        LikePattern.unescaped body = (c.operator.cased s).toList := by
  have read : ∀ p : Predicate, (∀ field ∈ p.fields, field.IsUnquoted) → strings? p.explain.toList = some p.strings := by
    intro p unquoted
    rw [Predicate.explain, String.toList_ofList]
    exact (p.writes_shown unquoted).strings?
  refine ⟨read, fun l plain => ⟨l.shown_eq plain, l.quote_not_mem_bare plain⟩, ?_⟩
  intro k c p place negated searches compiled unquoted
  obtain ⟨path, ls, -, literals, built⟩ := k.compileCondition_eq_ok_iff.1 compiled
  obtain ⟨s, single, rfl⟩ := Condition.exists_value_of_search searches literals
  obtain ⟨body, pattern, recovered⟩ := place.exists_body (c.operator.cased s)
  refine ⟨s, body, single, ?_, recovered⟩
  rw [read p unquoted, Condition.strings_of_search searches built, pattern]

def quotesTest : Predicate :=
  .and [.compare ["A"] .eq (.text "'; x''") true,
    .anyElement ["B"] (.compare [] .lt (.dateTime Literal.lastSecond) false),
    .not (.or [.isNull ["A"], .like ["A", "C"] (.containing "it's 5%") false true])]

def quotedNote : Condition := ⟨1, "t", .text, .iContains, ["It's 5%"]⟩

def quotedNoteTest : Predicate := .and [.isNotNull ["T"], .like ["T"] (.containing "it's 5%") true false]

theorem Compiler.strings?_explain_quotes :
    quotesTest.explain = "(LOWER(A) = '''; x''''' AND ANY(B: @ < TIMESTAMP '+10000-06-30 23:59:60.123456789') AND " ++
      "NOT (A IS NULL OR A.C NOT LIKE '%it''s 5\\%%' ESCAPE '\\'))" ∧
    strings? quotesTest.explain.toList =
      some ["'; x''".toList, "+10000-06-30 23:59:60.123456789".toList, "%it's 5\\%%".toList, "\\".toList] ∧
    noteFilters.compileCondition quotedNote = .ok quotedNoteTest ∧
    ∃ body, strings? quotedNoteTest.explain.toList = some ['%' :: body ++ ['%'], ['\\']] ∧
      LikePattern.unescaped body = "it's 5%".toList := by
  obtain ⟨read, -, search⟩ := strings?_explain
  have compiled : noteFilters.compileCondition quotedNote = .ok quotedNoteTest := rfl
  have unquoted : ∀ field ∈ quotesTest.fields, field.IsUnquoted := by
    simp [quotesTest, Predicate.fields, Predicate.fieldsOfAll, FieldRef.IsUnquoted]
  have unquotedNote : ∀ field ∈ quotedNoteTest.fields, field.IsUnquoted := by
    simp [quotedNoteTest, Predicate.fields, Predicate.fieldsOfAll, FieldRef.IsUnquoted]
  obtain ⟨s, body, single, strings, recovered⟩ :=
    search noteFilters quotedNote quotedNoteTest .anywhere false rfl compiled unquotedNote
  obtain rfl : s = "It's 5%" := (List.cons.inj single).1.symm
  refine ⟨by decide +kernel, ?_, compiled, body, strings, recovered.trans (by cbv)⟩
  rw [read quotesTest unquoted]
  decide +kernel

end RecordFilter
