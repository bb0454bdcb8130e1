import Mathlib
import RecordFilter.Compiler.Group
import RecordFilter.Proofs.Condition.Basic
import RecordFilter.Proofs.Condition.Leaves

set_option autoImplicit false

namespace RecordFilter

namespace Operator

def folded (o : Operator) (l : Literal) : Literal := if o.isCaseInsensitive then l.foldCase else l

def relates (o : Operator) (c : Comparison) (v : Value) (l : Literal) : Bool :=
  match v.compareLiteral? (o.folded l) o.isCaseInsensitive with
  | some order => c.holds order
  | none => false

/-- Whether the value is a text that has, or lacks, what the shape makes of a text to look for. -/
def resembles (o : Operator) (shape : String → LikePattern) (negated : Bool) (v : Value) (l : Literal) : Bool :=
  match v, o.folded l with
  | .text s, .text t => (shape t).isMatch (if o.isCaseInsensitive then lowercase s else s) != negated
  | _, _ => false

def one (test : Literal → Bool) : List Literal → Bool
  | [l] => test l
  | _ => false

def two (test : Literal → Literal → Bool) : List Literal → Bool
  | [l, m] => test l m
  | _ => false

/-- Whether a value passes the comparison that the operator makes with the literals; the null tests make none. -/
def admits (o : Operator) (ls : List Literal) (v : Value) : Bool :=
  match o with
  | equal | iEqual => one (o.relates .eq v) ls
  | notEqual | iNotEqual => one (o.relates .ne v) ls
  | greaterThan => one (o.relates .gt v) ls
  | greaterThanOrEqual => one (o.relates .gte v) ls
  | lessThan => one (o.relates .lt v) ls
  | lessThanOrEqual => one (o.relates .lte v) ls
  | contains | iContains => one (o.resembles .containing false v) ls
  | notContains | iNotContains => one (o.resembles .containing true v) ls
  | startsWith | iStartsWith => one (o.resembles .startingWith false v) ls
  | notStartsWith | iNotStartsWith => one (o.resembles .startingWith true v) ls
  | endsWith | iEndsWith => one (o.resembles .endingWith false v) ls
  | notEndsWith | iNotEndsWith => one (o.resembles .endingWith true v) ls
  | isIn | iIsIn => ls.any (o.relates .eq v)
  | isNotIn | iIsNotIn => ls.all (o.relates .ne v)
  | between => two (fun lo hi => o.relates .gte v lo && o.relates .lte v hi) ls
  | notBetween => two (fun lo hi => o.relates .lt v lo || o.relates .gt v hi) ls
  | isNull | isNotNull => true

/-- Whether a value satisfies the operator: null satisfies the test for null and nothing else. -/
def satisfiedBy (o : Operator) (ls : List Literal) (v : Value) : Bool :=
  if o = isNull then v.isNull else !v.isNull && o.admits ls v

structure Alike (o : Operator) (v w : Value) (l m : Literal) : Prop where
  relates : ∀ r, o.relates r v l = o.relates r w m
  resembles : ∀ shape negated, o.resembles shape negated v l = o.resembles shape negated w m

theorem one_congr {test test' : Literal → Bool} {ls ms : List Literal}
    (h : List.Forall₂ (fun l m => test l = test' m) ls ms) : one test ls = one test' ms := by
  cases h with
  | nil => rfl
  | cons first rest =>
    cases rest with
    | nil => exact first
    | cons => rfl

theorem two_congr {test test' : Literal → Literal → Bool} {R : Literal → Literal → Prop} {ls ms : List Literal}
    (h : List.Forall₂ R ls ms) (agree : ∀ {l l' m m'}, R l m → R l' m' → test l l' = test' m m') :
    two test ls = two test' ms := by
  cases h with
  | nil => rfl
  | cons first rest =>
    cases rest with
    | nil => rfl
    | cons second rest =>
      cases rest with
      | nil => exact agree first second
      | cons => rfl

theorem admits_congr {o : Operator} {v w : Value} {ls ms : List Literal} (h : List.Forall₂ (o.Alike v w) ls ms) :
    o.admits ls v = o.admits ms w := by
  have related (r : Comparison) : List.Forall₂ (fun l m => o.relates r v l = o.relates r w m) ls ms :=
    h.imp fun _ _ alike => alike.relates r
  have resembled (shape : String → LikePattern) (negated : Bool) :
      List.Forall₂ (fun l m => o.resembles shape negated v l = o.resembles shape negated w m) ls ms :=
    h.imp fun _ _ alike => alike.resembles shape negated
  cases o with
  | equal | iEqual => exact one_congr (related .eq)
  | notEqual | iNotEqual => exact one_congr (related .ne)
  | greaterThan => exact one_congr (related .gt)
  | greaterThanOrEqual => exact one_congr (related .gte)
  | lessThan => exact one_congr (related .lt)
  | lessThanOrEqual => exact one_congr (related .lte)
  | contains | iContains => exact one_congr (resembled .containing false)
  | notContains | iNotContains => exact one_congr (resembled .containing true)
  | startsWith | iStartsWith => exact one_congr (resembled .startingWith false)
  | notStartsWith | iNotStartsWith => exact one_congr (resembled .startingWith true)
  | endsWith | iEndsWith => exact one_congr (resembled .endingWith false)
  | notEndsWith | iNotEndsWith => exact one_congr (resembled .endingWith true)
  | isIn | iIsIn => exact Outcome.any_eq_of_forall₂ (related .eq)
  | isNotIn | iIsNotIn => exact Outcome.all_eq_of_forall₂ (related .ne)
  | between | notBetween => exact two_congr h fun lo hi => by rw [lo.relates, hi.relates]
  | isNull | isNotNull => rfl

theorem satisfiedBy_of_not_isNullTest {o : Operator} (compares : o.isNullTest = false) (ls : List Literal)
    (v : Value) : o.satisfiedBy ls v = (!v.isNull && o.admits ls v) := by
  rw [satisfiedBy, if_neg]
  rintro rfl
  cases compares

end Operator

namespace Condition

open Operator (one two)

theorem holds_compare (o : Operator) (field : FieldRef) (r : Comparison) (l : Literal) (v : Value) :
    (Predicate.compare field r (o.folded l) o.isCaseInsensitive).holds v = o.relates r (v.follow field) l := by
  rw [Predicate.holds]
  rfl

theorem holds_of_compare (c : Condition) {field : FieldRef} {r : Comparison} {ls : List Literal} {p : Predicate}
    (single : ls.length = 1)
    (h : ((c.single (ls.map c.operator.folded)).map fun l => .compare field r l c.operator.isCaseInsensitive) = .ok p)
    (v : Value) : p.holds v = one (c.operator.relates r (v.follow field)) ls := by
  obtain ⟨l, rfl⟩ := List.length_eq_one_iff.1 single
  cases h
  exact holds_compare c.operator field r l v

theorem holds_of_like (c : Condition) {field : FieldRef} {shape : String → LikePattern} {negated : Bool}
    {ls : List Literal} {p : Predicate} (single : ls.length = 1)
    (h : (do
      let l ← c.single (ls.map c.operator.folded)
      let s ← c.pattern l
      .ok (Predicate.like field (shape s) c.operator.isCaseInsensitive negated)) = .ok p)
    (v : Value) : p.holds v = one (c.operator.resembles shape negated (v.follow field)) ls := by
  obtain ⟨l, rfl⟩ := List.length_eq_one_iff.1 single
  obtain ⟨m, first, rest⟩ := Outcome.bind_eq_ok_iff.1 h
  obtain ⟨s, read, built⟩ := Outcome.bind_eq_ok_iff.1 rest
  cases built
  cases first
  have text : c.operator.folded l = .text s := by
    cases hl : c.operator.folded l with
    | text t =>
      rw [hl] at read
      cases read
      rfl
    | _ =>
      rw [hl] at read
      cases read
  simp only [Predicate.holds, one, Operator.resembles, text]
  cases v.follow field <;> rfl

theorem holds_of_body (c : Condition) {field : FieldRef} {ls : List Literal} {p : Predicate} {most : Nat}
    (allowed : c.operator.arity.Allows most ls.length) (compares : c.operator.isNullTest = false)
    (h : c.body field (ls.map c.operator.folded) = .ok p) (v : Value) :
    p.holds v = c.operator.admits ls (v.follow field) := by
  obtain ⟨sort, name, type, op, values⟩ := c
  cases op with
  | equal | notEqual | iEqual | iNotEqual | greaterThan | greaterThanOrEqual | lessThan | lessThanOrEqual =>
    exact holds_of_compare _ allowed h v
  | contains | notContains | iContains | iNotContains | startsWith | notStartsWith | iStartsWith | iNotStartsWith
  | endsWith | notEndsWith | iEndsWith | iNotEndsWith =>
    exact holds_of_like _ allowed h v
  | isIn | iIsIn =>
    cases h
    rw [Predicate.holds_disjunction, List.map_map, List.any_map]
    exact List.any_congr rfl fun l => holds_compare _ field .eq l v
  | isNotIn | iIsNotIn =>
    cases h
    rw [Predicate.holds_conjunction, List.map_map, List.all_map]
    exact List.all_congr rfl fun l => holds_compare _ field .ne l v
  | between =>
    obtain ⟨lo, hi, rfl⟩ := List.length_eq_two.1 allowed
    cases h
    rw [Predicate.holds, Predicate.allHold_eq_all]
    simp only [List.all_cons, List.all_nil, Bool.and_true]
    exact congrArg₂ _ (holds_compare _ field .gte lo v) (holds_compare _ field .lte hi v)
  | notBetween =>
    obtain ⟨lo, hi, rfl⟩ := List.length_eq_two.1 allowed
    cases h
    rw [Predicate.holds, Predicate.anyHolds_eq_any]
    simp only [List.any_cons, List.any_nil, Bool.or_false]
    exact congrArg₂ _ (holds_compare _ field .lt lo v) (holds_compare _ field .gt hi v)
  | isNull | isNotNull => cases compares

theorem map_folded (c : Condition) (ls : List Literal) :
    (if c.operator.isCaseInsensitive then ls.map Literal.foldCase else ls) = ls.map c.operator.folded := by
  unfold Operator.folded
  cases c.operator.isCaseInsensitive <;> simp

/-- The leaf test of a condition, which asks for a value before it compares, holds where the operator is satisfied. -/
theorem holds_of_leaf (c : Condition) {field : FieldRef} {ls : List Literal} {p : Predicate} {most : Nat}
    (allowed : c.operator.arity.Allows most ls.length) (h : c.body field (ls.map c.operator.folded) = .ok p)
    (v : Value) :
    (if c.operator.isNullTest then p else .and [.isNotNull field, p]).holds v =
      c.operator.satisfiedBy ls (v.follow field) := by
  cases compares : c.operator.isNullTest with
  | false =>
    rw [Operator.satisfiedBy_of_not_isNullTest compares]
    simp [Predicate.holds, Predicate.allHold, holds_of_body c allowed compares h v]
  | true =>
    obtain ⟨sort, name, type, op, values⟩ := c
    cases op with
    | isNull | isNotNull =>
      cases h
      simp [Predicate.holds, Operator.satisfiedBy, Operator.admits]
    | _ => cases compares

theorem holds_of_predicate (c : Condition) {path : ResolvedPath} {ls : List Literal} {p : Predicate} {most : Nat}
    (allowed : c.operator.arity.Allows most ls.length) (h : c.predicate path ls = .ok p) (v : Value) :
    p.holds v = (path.leaves c.operator.isNullTest v).any (c.operator.satisfiedBy ls) := by
  unfold predicate at h
  simp only [map_folded] at h
  obtain ⟨body, hbody, built⟩ := Outcome.bind_eq_ok_iff.1 h
  cases built
  exact path.holds_target _ _ _ (fun w => holds_of_leaf c allowed hbody w) v

theorem accepts_of_predicate {α : Type} [HasFields α] {c : Condition} {most : Nat} {ls : List Literal}
    {path : ResolvedPath} {p : Predicate} (valid : c.literals most = .ok ls) (built : c.predicate path ls = .ok p)
    (a : α) : p.accepts a = (path.leaves c.operator.isNullTest (scope a)).any (c.operator.satisfiedBy ls) :=
  c.holds_of_predicate (allows_length_of_literals valid) built (scope a)

end Condition

namespace Compiler

variable (k : Compiler)

theorem compileCondition_eq_ok_iff {c : Condition} {p : Predicate} :
    k.compileCondition c = .ok p ↔
      ∃ path ls, k.schema.resolve c.field = .ok path ∧ c.literals k.config.maxInValues = .ok ls ∧
        c.predicate path ls = .ok p := by
  unfold compileCondition
  simp only [Outcome.bind_eq_ok_iff]
  constructor
  · rintro ⟨path, hpath, ls, hls, built⟩
    exact ⟨path, ls, hpath, hls, built⟩
  · rintro ⟨path, ls, hpath, hls, built⟩
    exact ⟨path, hpath, ls, hls, built⟩

/-- A compiled condition accepts a thing if and only if one of the leaves of its path satisfies its operator. -/
theorem compileCondition_accepts_iff {α : Type} [HasFields α] {c : Condition} {p : Predicate}
    (h : k.compileCondition c = .ok p) :
    ∃ path ls, k.schema.resolve c.field = .ok path ∧ c.literals k.config.maxInValues = .ok ls ∧
      ∀ a : α, p.accepts a = true ↔
        ∃ v ∈ path.leaves c.operator.isNullTest (scope a), c.operator.satisfiedBy ls v = true := by
  obtain ⟨path, ls, hpath, hls, built⟩ := (k.compileCondition_eq_ok_iff).1 h
  refine ⟨path, ls, hpath, hls, fun a => ?_⟩
  rw [Predicate.accepts, c.holds_of_predicate (Condition.allows_length_of_literals hls) built, List.any_eq_true]

def cellFilters : Compiler :=
  ⟨⟨"table", [("Rows", .list (.list (.record [("Labels", .list (.scalar .text))])))], none⟩, .standard⟩

def labelled : Condition := ⟨1, "rows. labels", .text, .iEqual, ["X"]⟩

def labelTest : Predicate :=
  .anyElement ["Rows"] (.anyElement [] (.anyElement ["Labels"]
    (.and [.isNotNull [], .compare [] .eq (.text "x") true])))

def raggedTable : Record :=
  [("Rows", .list [.list [.null, .record [("Labels", .list [.text "a"])]], .null,
    .list [.bool true, .record [], .record [("Labels", .list [.null, .text "x"])]]])]

theorem labelTest_accepts_raggedTable :
    cellFilters.compileCondition labelled = .ok labelTest ∧
      ∃ path ls, cellFilters.schema.resolve labelled.field = .ok path ∧ labelled.literals 1000 = .ok ls ∧
        path.leaves false (scope raggedTable) = [.text "a", .null, .text "x"] ∧
        labelled.operator.satisfiedBy ls (.text "x") = true ∧ labelTest.accepts raggedTable = true := by
  have compiled : cellFilters.compileCondition labelled = .ok labelTest := by cbv
  obtain ⟨path, ls, hpath, hls, accepts⟩ := cellFilters.compileCondition_accepts_iff (α := Record) compiled
  have path_eq : path = ⟨[⟨"Rows", 2⟩, ⟨"Labels", 1⟩], .text⟩ :=
    Except.ok.inj (hpath.symm.trans (by cbv))
  have ls_eq : ls = [.text "X"] := Except.ok.inj (hls.symm.trans (by cbv))
  subst path_eq ls_eq
  have leaves : ResolvedPath.leaves ⟨[⟨"Rows", 2⟩, ⟨"Labels", 1⟩], .text⟩ false (scope raggedTable) =
      [.text "a", .null, .text "x"] := by cbv
  have satisfied : labelled.operator.satisfiedBy [.text "X"] (.text "x") = true := by cbv
  refine ⟨compiled, _, _, hpath, hls, leaves, satisfied, (accepts raggedTable).2 ⟨.text "x", ?_, satisfied⟩⟩
  change Value.text "x" ∈ ResolvedPath.leaves _ false _
  rw [leaves]
  simp

end Compiler

end RecordFilter
