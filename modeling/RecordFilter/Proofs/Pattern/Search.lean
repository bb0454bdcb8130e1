import Mathlib
import RecordFilter.Proofs.Condition.Validity
import RecordFilter.Proofs.Pattern.Matching

set_option autoImplicit false

namespace RecordFilter

namespace LikePattern

theorem describes_nil_iff (t : List Char) : Describes [] t ↔ t = [] := by
  constructor
  · intro h
    cases h
    rfl
  · rintro rfl
    exact .nothing

theorem describes_percent_cons (p t : List Char) :
    Describes ('%' :: p) t ↔ ∃ run rest, run ++ rest = t ∧ Describes p rest := by
  constructor
  · intro h
    cases h with
    | anyRun run rest => exact ⟨run, _, rfl, rest⟩
    | itself plain _ => simp [IsPlain] at plain
  · rintro ⟨run, rest, rfl, described⟩
    exact .anyRun run described

theorem describes_backslash_cons (c : Char) (p t : List Char) :
    Describes ('\\' :: c :: p) t ↔ ∃ rest, c :: rest = t ∧ Describes p rest := by
  constructor
  · intro h
    cases h with
    | escaped _ rest => exact ⟨_, rfl, rest⟩
    | itself plain _ => simp [IsPlain] at plain
  · rintro ⟨rest, rfl, described⟩
    exact .escaped c described

theorem describes_plain_cons {c : Char} (plain : IsPlain c) (p t : List Char) :
    Describes (c :: p) t ↔ ∃ rest, c :: rest = t ∧ Describes p rest := by
  constructor
  · intro h
    cases h with
    | itself _ rest => exact ⟨_, rfl, rest⟩
    | _ => simp [IsPlain] at plain
  · rintro ⟨rest, rfl, described⟩
    exact .itself plain described

theorem escaped_cons (c : Char) (cs : List Char) :
    escaped (c :: cs) = if c = '\\' ∨ c = '%' ∨ c = '_' then '\\' :: c :: escaped cs else c :: escaped cs := by
  rw [escaped, List.flatMap_cons]
  split <;> rfl

/-- An escaped text in front of a pattern stands for itself, whatever the pattern goes on with. -/
theorem describes_escaped_append (l p t : List Char) :
    Describes (escaped l ++ p) t ↔ ∃ rest, l ++ rest = t ∧ Describes p rest := by
  induction l generalizing t with
  | nil => simp [escaped]
  | cons c l ih =>
    have step : Describes (escaped (c :: l) ++ p) t ↔ ∃ rest, c :: rest = t ∧ Describes (escaped l ++ p) rest := by
      rw [escaped_cons]
      split
      · exact describes_backslash_cons c (escaped l ++ p) t
      · rename_i plain
        apply describes_plain_cons
        simpa only [IsPlain, ne_eq, not_or] using plain
    rw [step]
    simp only [ih]
    constructor
    · rintro ⟨_, rfl, rest, rfl, described⟩
      exact ⟨rest, rfl, described⟩
    · rintro ⟨rest, rfl, described⟩
      exact ⟨l ++ rest, rfl, rest, rfl, described⟩

theorem describes_escaped (l t : List Char) : Describes (escaped l) t ↔ l = t := by
  have h := describes_escaped_append l [] t
  simpa [describes_nil_iff] using h

theorem describes_escaped_percent (l t : List Char) : Describes (escaped l ++ ['%']) t ↔ l <+: t := by
  have anything (rest : List Char) : Describes ['%'] rest := by
    rw [describes_percent_cons]
    exact ⟨rest, [], List.append_nil rest, .nothing⟩
  rw [describes_escaped_append]
  simp only [anything, and_true]
  rfl

end LikePattern

inductive Place where
  | anywhere | atStart | atEnd
deriving DecidableEq

namespace Place

open LikePattern

def pattern : Place → String → LikePattern
  | anywhere => containing
  | atStart => startingWith
  | atEnd => endingWith

def Finds : Place → List Char → List Char → Prop
  | anywhere, l, t => l <:+: t
  | atStart, l, t => l <+: t
  | atEnd, l, t => l <:+ t

theorem isMatch_pattern_iff (place : Place) (l t : String) :
    (place.pattern l).isMatch t = true ↔ place.Finds l.toList t.toList := by
  rw [isMatch, LikePattern.regex, isFound_anchored_iff]
  cases place with
  | anywhere =>
    simp only [pattern, containing, String.toList_ofList, List.cons_append, describes_percent_cons,
      describes_escaped_percent, Finds, List.infix_iff_prefix_suffix]
    constructor
    · rintro ⟨run, rest, found, begins⟩
      exact ⟨rest, begins, run, found⟩
    · rintro ⟨rest, begins, run, found⟩
      exact ⟨run, rest, found, begins⟩
  | atStart =>
    rw [pattern, startingWith, String.toList_ofList, describes_escaped_percent]
    rfl
  | atEnd =>
    rw [pattern, endingWith, String.toList_ofList, describes_percent_cons]
    simp only [describes_escaped, exists_eq_right']
    rfl

end Place

namespace Operator

/-- Where an operator searches for its value, and whether it asks for the value not to be there. -/
def search? : Operator → Option (Place × Bool)
  | contains | iContains => some (.anywhere, false)
  | notContains | iNotContains => some (.anywhere, true)
  | startsWith | iStartsWith => some (.atStart, false)
  | notStartsWith | iNotStartsWith => some (.atStart, true)
  | endsWith | iEndsWith => some (.atEnd, false)
  | notEndsWith | iNotEndsWith => some (.atEnd, true)
  | _ => none

def cased (o : Operator) (s : String) : String := if o.isCaseInsensitive then lowercase s else s

theorem folded_text (o : Operator) (s : String) : o.folded (.text s) = .text (o.cased s) := by
  unfold folded cased
  cases o.isCaseInsensitive <;> rfl

variable {o : Operator} {place : Place} {negated : Bool}

theorem isPattern_of_search (h : o.search? = some (place, negated)) : o.isPattern = true := by
  cases o <;> cases h <;> rfl

theorem arity_of_search (h : o.search? = some (place, negated)) : o.arity = .one := by
  cases o <;> cases h <;> rfl

theorem isNullTest_of_search (h : o.search? = some (place, negated)) : o.isNullTest = false := by
  cases o <;> cases h <;> rfl

theorem admits_of_search (h : o.search? = some (place, negated)) (ls : List Literal) (v : Value) :
    o.admits ls v = one (o.resembles place.pattern negated v) ls := by
  cases o <;> cases h <;> rfl

theorem resembles_text (o : Operator) (shape : String → LikePattern) (negated : Bool) (s l : String) :
    o.resembles shape negated (.text s) (.text l) = ((shape (o.cased l)).isMatch (o.cased s) != negated) := by
  unfold resembles
  rw [folded_text]
  rfl

/-- A value satisfies a searching operator if it is a text and the text to look for is there, or is not. -/
theorem satisfiedBy_search_iff (h : o.search? = some (place, negated)) (l : String) (v : Value) :
    o.satisfiedBy [.text l] v = true ↔
      ∃ s, v = .text s ∧ (place.Finds (o.cased l).toList (o.cased s).toList ↔ negated = false) := by
  rw [satisfiedBy_of_not_isNullTest (isNullTest_of_search h), admits_of_search h, one]
  cases v with
  | text s =>
    simp only [resembles_text, Value.text.injEq, exists_eq_left', ← place.isMatch_pattern_iff]
    cases negated <;> simp [Value.isNull]
  | _ => simp [resembles]

end Operator

namespace Condition

theorem exists_value_of_search {c : Condition} {most : Nat} {ls : List Literal} {place : Place} {negated : Bool}
    (searches : c.operator.search? = some (place, negated)) (h : c.literals most = .ok ls) :
    ∃ l, c.values = [l] ∧ ls = [.text l] := by
  obtain ⟨supported, counted, -⟩ := literals_eq_ok_iff.1 h
  rw [Operator.arity_of_search searches] at counted
  obtain ⟨l, single⟩ := List.length_eq_one_iff.1 counted
  have text := Operator.dataType_of_isPattern (Operator.isPattern_of_search searches) supported
  refine ⟨l, single, ?_⟩
  rw [literals_of_text h text, single, List.map_singleton]

end Condition

namespace Compiler

/-- The three patterns made of a text find just that text, and the conditions that search for their value find it, or
miss it, in a text field as it stands, or both in lowercase. -/
theorem compileCondition_searches {α : Type} [HasFields α] :
    (∀ l t : String,
      ((LikePattern.containing l).isMatch t = true ↔ l.toList <:+: t.toList) ∧
      ((LikePattern.startingWith l).isMatch t = true ↔ l.toList <+: t.toList) ∧
      ((LikePattern.endingWith l).isMatch t = true ↔ l.toList <:+ t.toList)) ∧
    ∀ (k : Compiler) (c : Condition) (p : Predicate) (place : Place) (negated : Bool),
      c.operator.search? = some (place, negated) → k.compileCondition c = .ok p →
      ∃ path l, k.schema.resolve c.field = .ok path ∧ c.values = [l] ∧
        ∀ a : α, p.accepts a = true ↔ ∃ s, Value.text s ∈ path.leaves false (scope a) ∧
          (place.Finds (c.operator.cased l).toList (c.operator.cased s).toList ↔ negated = false) := by
  refine ⟨fun l t => ⟨Place.isMatch_pattern_iff .anywhere l t, Place.isMatch_pattern_iff .atStart l t,
    Place.isMatch_pattern_iff .atEnd l t⟩, ?_⟩
  intro k c p place negated searches h
  obtain ⟨path, ls, resolved, hls, built⟩ := k.compileCondition_eq_ok_iff.1 h
  obtain ⟨l, single, rfl⟩ := Condition.exists_value_of_search searches hls
  refine ⟨path, l, resolved, single, fun a => ?_⟩
  rw [Condition.accepts_of_predicate hls built, List.any_eq_true, Operator.isNullTest_of_search searches]
  simp only [Operator.satisfiedBy_search_iff searches]
  constructor
  · rintro ⟨_, leaf, s, rfl, found⟩
    exact ⟨s, leaf, found⟩
  · rintro ⟨s, leaf, found⟩
    exact ⟨_, leaf, s, rfl, found⟩

def noteFilters : Compiler := ⟨⟨"note", [("T", .scalar .text)], none⟩, .standard⟩

def discounted : Condition := ⟨1, "t", .text, .iContains, ["50%_A\\"]⟩

def discountTest : Predicate := .and [.isNotNull ["T"], .like ["T"] (.containing "50%_a\\") true false]

def discountNote : Record := [("T", .text "NOW 50%_a\\!")]

theorem discountTest_accepts_discountNote :
    noteFilters.compileCondition discounted = .ok discountTest ∧
      discounted.operator.search? = some (.anywhere, false) ∧ discountTest.accepts discountNote = true := by
  have compiled : noteFilters.compileCondition discounted = .ok discountTest := rfl
  obtain ⟨path, l, resolved, single, accepts⟩ :=
    (compileCondition_searches (α := Record)).2 noteFilters discounted discountTest .anywhere false rfl compiled
  have path_eq : path = ⟨[⟨"T", 0⟩], .text⟩ := Except.ok.inj resolved.symm
  obtain rfl : l = "50%_A\\" := (List.cons.inj single).1.symm
  subst path_eq
  refine ⟨compiled, rfl, (accepts discountNote).2 ⟨"NOW 50%_a\\!", List.mem_singleton_self _, ?_⟩⟩
  have found : Place.anywhere.Finds (discounted.operator.cased "50%_A\\").toList
      (discounted.operator.cased "NOW 50%_a\\!").toList := ⟨"now ".toList, "!".toList, by cbv⟩
  simp [found]

end Compiler

end RecordFilter
