import Mathlib
import RecordFilter.Proofs.Pattern.Search
import RecordFilter.Proofs.Text.AsciiCase

set_option autoImplicit false

namespace RecordFilter

/-- The second text is the first one with some of its ASCII letters in the other case. -/
def Text.Recased (s t : String) : Prop := Text.equalIgnoringAsciiCase s.toList t.toList = true

instance (s t : String) : Decidable (Text.Recased s t) := inferInstanceAs (Decidable (_ = _))

inductive Value.Recased : Value → Value → Prop where
  | same (v : Value) : Recased v v
  | text {s t : String} (letters : Text.Recased s t) : Recased (.text s) (.text t)
  | list {items items' : List Value} (inside : List.Forall₂ Recased items items') :
      Recased (.list items) (.list items')
  | record {fields fields' : Record} (names : fields.map Prod.fst = fields'.map Prod.fst)
      (inside : List.Forall₂ Recased (fields.map Prod.snd) (fields'.map Prod.snd)) :
      Recased (.record fields) (.record fields')

namespace Text.Recased

theorem refl (s : String) : Recased s s := BEq.rfl

variable {s t : String}

theorem lowercase_eq (h : Recased s t) : RecordFilter.lowercase s = RecordFilter.lowercase t :=
  congrArg String.ofList (lowercase_eq_of_equalIgnoringAsciiCase h)

theorem isBlank_eq (h : Recased s t) : Condition.isBlank s = Condition.isBlank t := by
  have same : asciiLowercase s.toList = asciiLowercase t.toList := by simpa [Recased, equalIgnoringAsciiCase] using h
  rw [Condition.isBlank, Condition.isBlank, ← all_isBlank_asciiLowercase, same, all_isBlank_asciiLowercase]

end Text.Recased

namespace Value.Recased

theorem field {fields fields' : Record} (names : fields.map Prod.fst = fields'.map Prod.fst)
    (inside : List.Forall₂ Recased (fields.map Prod.snd) (fields'.map Prod.snd)) (name : String) :
    Recased (fields.field name) (fields'.field name) := by
  induction fields generalizing fields' with
  | nil =>
    cases fields' with
    | nil => exact .same _
    | cons => cases names
  | cons f fields ih =>
    cases fields' with
    | nil => cases names
    | cons f' fields' =>
      obtain ⟨first, v⟩ := f
      obtain ⟨first', v'⟩ := f'
      obtain ⟨same, others⟩ := List.cons.inj names
      obtain rfl : first = first' := same
      rw [List.map_cons, List.map_cons, List.forall₂_cons] at inside
      have later := ih others inside.2
      unfold Record.field at later ⊢
      rw [List.lookup_cons, List.lookup_cons]
      cases name == first with
      | true => exact inside.1
      | false => exact later

variable {v w : Value}

theorem get (h : Recased v w) (name : String) : Recased (v.get name) (w.get name) := by
  cases h with
  | record names inside => exact field names inside name
  | _ => exact .same _

theorem elements (h : Recased v w) (levels : Nat) : List.Forall₂ Recased (v.elements levels) (w.elements levels) := by
  induction levels generalizing v w with
  | zero => exact .cons h .nil
  | succ levels ih =>
    cases h with
    | same => exact List.forall₂_same.2 fun u _ => .same u
    | list inside =>
      exact List.rel_flatMap inside fun _ _ => ih
    | _ => exact .nil

theorem leaves (h : Recased v w) (segments : List PathSegment) :
    List.Forall₂ Recased (v.leaves segments) (w.leaves segments) := by
  induction segments generalizing v w with
  | nil => exact .cons h .nil
  | cons s rest ih => exact List.rel_flatMap ((h.get s.name).elements s.depth) fun _ _ => ih

theorem isNull_eq (h : Recased v w) : v.isNull = w.isNull := by
  cases h <;> rfl

end Value.Recased

namespace Operator

variable {o : Operator} {v w : Value}

theorem dataType_of_isCaseInsensitive {t : DataType} (folds : o.isCaseInsensitive = true)
    (supported : o.supports t = true) : t = .text := by
  cases o with
  | iEqual | iNotEqual | iContains | iNotContains | iStartsWith | iNotStartsWith | iEndsWith | iNotEndsWith | iIsIn
  | iIsNotIn =>
    cases t with
    | text => rfl
    | _ => cases supported
  | _ => cases folds

theorem cased_eq_of_recased (folds : o.isCaseInsensitive = true) {s t : String} (h : Text.Recased s t) :
    o.cased s = o.cased t := by
  rw [cased, cased, if_pos folds, if_pos folds, h.lowercase_eq]

theorem alike_of_recased (folds : o.isCaseInsensitive = true) (values : v.Recased w) {l m : String}
    (h : Text.Recased l m) : o.Alike v w (.text l) (.text m) where
  relates r := by
    rw [relates, relates, folded_text, folded_text, cased_eq_of_recased folds h, folds]
    cases values with
    | text letters =>
      rw [Value.compareLiteral?, Value.compareLiteral?]
      simp [Value.asText?, letters.lowercase_eq]
    | _ => rfl
  resembles shape negated := by
    cases values with
    | text letters => rw [resembles_text, resembles_text, cased_eq_of_recased folds h, cased_eq_of_recased folds letters]
    | same v =>
      cases v with
      | text s => rw [resembles_text, resembles_text, cased_eq_of_recased folds h]
      | _ => rfl
    | _ => rfl

theorem satisfiedBy_of_recased (folds : o.isCaseInsensitive = true) (values : v.Recased w) {ls ms : List String}
    (h : List.Forall₂ Text.Recased ls ms) : o.satisfiedBy (ls.map .text) v = o.satisfiedBy (ms.map .text) w := by
  have alike : List.Forall₂ (o.Alike v w) (ls.map .text) (ms.map .text) := by
    rw [List.forall₂_map_left_iff, List.forall₂_map_right_iff]
    exact h.imp fun _ _ => alike_of_recased folds values
  rw [satisfiedBy, satisfiedBy, values.isNull_eq, admits_congr alike]

end Operator

namespace Condition

variable {c : Condition} {values' : List String}

theorem mapM_ofText_text (values : List String) : values.mapM (Literal.ofText .text) = .ok (values.map .text) := by
  rw [Outcome.mapM_eq_ok_iff, List.forall₂_map_right_iff]
  exact List.forall₂_same.2 fun _ _ => rfl

theorem countFault?_of_length_eq (h : c.values.length = values'.length) (most : Nat) :
    { c with values := values' }.countFault? most = c.countFault? most := by
  have empty : values'.isEmpty = c.values.isEmpty := by
    rw [Bool.eq_iff_iff, List.isEmpty_iff_length_eq_zero, List.isEmpty_iff_length_eq_zero, h]
  unfold countFault?
  simp only [empty, h]

/-- The values are refused as they were, or they are read as they stand. -/
theorem literals_of_recased (folds : c.operator.isCaseInsensitive = true)
    (h : List.Forall₂ Text.Recased c.values values') (most : Nat) :
    (∃ e, c.literals most = .error e ∧ { c with values := values' }.literals most = .error e) ∨
      c.literals most = .ok (c.values.map .text) ∧
        { c with values := values' }.literals most = .ok (values'.map .text) := by
  have counted := countFault?_of_length_eq h.length_eq most
  have blank := Outcome.any_eq_of_forall₂ (h.imp fun _ _ letters => letters.isBlank_eq)
  unfold literals
  simp only [counted, ← blank]
  by_cases supported : c.operator.supports c.dataType = true
  · rw [Operator.dataType_of_isCaseInsensitive folds supported, mapM_ofText_text, mapM_ofText_text]
    split
    · exact Or.inl ⟨_, rfl, rfl⟩
    · split
      · exact Or.inl ⟨_, rfl, rfl⟩
      · split
        · exact Or.inl ⟨_, rfl, rfl⟩
        · exact Or.inr ⟨rfl, rfl⟩
  · simp [supported]

theorem predicate_of_recased (folds : c.operator.isCaseInsensitive = true)
    (h : List.Forall₂ Text.Recased c.values values') (path : ResolvedPath) :
    { c with values := values' }.predicate path (values'.map .text) = c.predicate path (c.values.map .text) := by
  have folded : c.values.map (Literal.foldCase ∘ .text) = values'.map (Literal.foldCase ∘ .text) :=
    Outcome.map_eq_of_forall₂ (h.imp fun _ _ letters => congrArg Literal.text letters.lowercase_eq)
  change c.predicate path _ = _
  unfold predicate
  simp only [folds, if_true, List.map_map, folded]

end Condition

namespace Compiler

variable (k : Compiler)

/-- With other ASCII letters in the other case, a condition that ignores case compiles to the same predicate, or is
refused alike, and that predicate accepts a record if and only if it accepts the record with other letters in the other
case. -/
theorem compileCondition_recased {α β : Type} [HasFields α] [HasFields β] {c : Condition} {values' : List String}
    (folds : c.operator.isCaseInsensitive = true) (h : List.Forall₂ Text.Recased c.values values') :
    k.compileCondition { c with values := values' } = k.compileCondition c ∧
      ∀ p, k.compileCondition c = .ok p →
        ∀ (a : α) (b : β), (scope a).Recased (scope b) → p.accepts b = p.accepts a := by
  constructor
  · rw [compileCondition, compileCondition]
    congr 1
    funext path
    rcases Condition.literals_of_recased folds h k.config.maxInValues with ⟨e, refused, refused'⟩ | ⟨read, read'⟩
    · rw [refused, refused']
      rfl
    · rw [read, read']
      exact Condition.predicate_of_recased folds h path
  · intro p compiled a b letters
    obtain ⟨path, ls, -, valid, built⟩ := k.compileCondition_eq_ok_iff.1 compiled
    have text := Operator.dataType_of_isCaseInsensitive folds (Condition.literals_eq_ok_iff.1 valid).1
    obtain rfl := Condition.literals_of_text valid text
    have values : List.Forall₂ Text.Recased c.values c.values := List.forall₂_same.2 fun s _ => .refl s
    rw [Condition.accepts_of_predicate valid built, Condition.accepts_of_predicate valid built]
    exact (Outcome.any_eq_of_forall₂ ((letters.leaves _).imp fun _ _ leaf =>
      Operator.satisfiedBy_of_recased folds leaf values)).symm

def songFilters : Compiler := ⟨⟨"song", [("T", .list (.scalar .text))], none⟩, .standard⟩

def titled : Condition := ⟨1, "t", .text, .iContains, ["AΣ"]⟩

def titleTest : Predicate :=
  .anyElement ["T"] (.and [.isNotNull [], .like [] (.containing "aς") true false])

def song : Record := [("T", .list [.null, .text "To ΦaΣ"])]

def songRecased : Record := [("T", .list [.null, .text "tO ΦAΣ"])]

theorem titleTest_recased :
    titled.operator.isCaseInsensitive = true ∧ List.Forall₂ Text.Recased titled.values ["aΣ"] ∧
      songFilters.compileCondition titled = .ok titleTest ∧
      songFilters.compileCondition { titled with values := ["aΣ"] } = .ok titleTest ∧
      (scope song).Recased (scope songRecased) ∧ titleTest.accepts song = true ∧
      titleTest.accepts songRecased = true := by
  have values : List.Forall₂ Text.Recased titled.values ["aΣ"] := .cons (by decide +kernel) .nil
  have folded : lowercase "AΣ" = "aς" := by decide +kernel
  have compiled : songFilters.compileCondition titled = .ok titleTest := by
    rw [titleTest, ← folded]
    rfl
  have letters : (scope song).Recased (scope songRecased) :=
    .record rfl (.cons (.list (.cons (.same _) (.cons (.text (by decide +kernel)) .nil))) .nil)
  have accepted : titleTest.accepts song = true := by decide +kernel
  obtain ⟨same, accepts⟩ := songFilters.compileCondition_recased (α := Record) (β := Record) rfl values
  exact ⟨rfl, values, compiled, same.trans compiled, letters, accepted,
    (accepts titleTest compiled song songRecased letters).trans accepted⟩

end Compiler

end RecordFilter
