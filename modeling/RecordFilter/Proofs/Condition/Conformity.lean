import Mathlib
import RecordFilter.Proofs.Condition.Meaning
import RecordFilter.Proofs.Path.Resolution
import RecordFilter.Proofs.Predicate.Strict

set_option autoImplicit false

namespace RecordFilter

mutual

def FieldType.admits : FieldType → Value → Bool
  | _, .null => true
  | .scalar _, v => v.isScalar
  | .record fields, .record r => Fields.admits fields r
  | .list element, .list items => items.all fun v => element.admits v
  | _, _ => false

def Fields.admits : List (String × FieldType) → Record → Bool
  | [], _ => true
  | (name, type) :: fields, r => type.admits (r.field name) && Fields.admits fields r

end

namespace FieldType

def nested : Nat → FieldType → FieldType
  | 0, t => t
  | levels + 1, t => list (nested levels t)

theorem nested_peel (t : FieldType) : nested t.peel.1 t.peel.2 = t := by
  match t with
  | list element => rw [peel, nested, nested_peel element]
  | scalar _ | record _ => rfl

theorem admits_null (t : FieldType) : t.admits .null = true := by
  cases t <;> rfl

end FieldType

theorem Fields.admits_of_mem {fields : Fields} {r : Record} (h : Fields.admits fields r = true) {name : String}
    {t : FieldType} (declared : (name, t) ∈ fields) : t.admits (r.field name) = true := by
  induction fields with
  | nil => cases declared
  | cons field fields ih =>
    obtain ⟨first, type⟩ := field
    rw [admits, Bool.and_eq_true] at h
    rcases List.mem_cons.1 declared with same | later
    · cases same
      exact h.1
    · exact ih h.2 later

namespace FieldType

theorem getStrictly_of_admits {fields : Fields} {v : Value} (h : (record fields).admits v = true) {name : String}
    {t : FieldType} (declared : (name, t) ∈ fields) : ∃ w, v.getStrictly name = .ok w ∧ t.admits w = true := by
  cases v with
  | null => exact ⟨.null, rfl, t.admits_null⟩
  | record r => exact ⟨Record.field r name, rfl, Fields.admits_of_mem h declared⟩
  | _ => cases h

theorem itemsStrictly_of_admits {element : FieldType} {v : Value} (h : (list element).admits v = true) :
    ∃ items, v.itemsStrictly = .ok items ∧ ∀ item ∈ items, element.admits item = true := by
  cases v with
  | null => exact ⟨[], rfl, fun item hitem => by cases hitem⟩
  | list items => exact ⟨items, rfl, List.all_eq_true.1 h⟩
  | _ => cases h

theorem isScalar_of_admits {t : DataType} {v : Value} (h : (scalar t).admits v = true) : v.isScalar = true := by
  cases v with
  | null => rfl
  | _ => exact h

end FieldType

/-- The segments lead from fields of the one type to the other, through records and the elements of lists. -/
inductive Leads : FieldType → List PathSegment → FieldType → Prop
  | here (t : FieldType) : Leads t [] t
  | on {fields : Fields} {name : String} {levels : Nat} {inner : FieldType} {rest : List PathSegment} {t : FieldType}
      (declared : (name, inner.nested levels) ∈ fields) (further : Leads inner rest t) :
      Leads (.record fields) (⟨name, levels⟩ :: rest) t

theorem Fields.nested_mem_of_lookup? {fields : Fields} {name declared : String} {type : FieldType}
    (h : fields.lookup? name = some (declared, type)) : (declared, type.peel.2.nested type.peel.1) ∈ fields := by
  rw [FieldType.nested_peel]
  exact mem_of_lookup? h

theorem Follows.leads {fields : Fields} {names : List String} {p : ResolvedPath} (h : Follows fields names p) :
    Leads (.record fields) p.segments (.scalar p.leaf) := by
  induction h with
  | leaf found scalar =>
    have mem := Fields.nested_mem_of_lookup? found
    rw [scalar] at mem
    exact .on mem (.here _)
  | inner found record _ ih =>
    have mem := Fields.nested_mem_of_lookup? found
    rw [record] at mem
    exact .on mem ih

theorem Schema.leads_of_resolve {schema : Schema} {text : String} {p : ResolvedPath}
    (h : schema.resolve text = .ok p) : Leads (.record schema.fields) p.segments (.scalar p.leaf) := by
  obtain ⟨-, follows⟩ := resolve_eq_ok_iff.1 h
  exact follows.leads

/-- To every path of a schema some record has just the given value at its end. -/
theorem Schema.exists_leaves_of_resolve {schema : Schema} {text : String} {path : ResolvedPath}
    (h : schema.resolve text = .ok path) (v : Value) : ∃ r : Record, path.leaves false (scope r) = [v] := by
  have leads := leads_of_resolve h
  cases segments : path.segments with
  | nil =>
    rw [segments] at leads
    cases leads
  | cons s rest =>
    refine ⟨[(s.name, (Value.along rest v).inLists s.depth)], ?_⟩
    have leaves := Value.leaves_along (s :: rest) v
    rw [Value.along, ← segments] at leaves
    exact leaves

/-- With its last field taken whole, a path leads to whatever type that field has. -/
theorem Leads.exists_wholeLast {t u : FieldType} {segments : List PathSegment} (h : Leads t segments u) :
    ∃ whole, Leads t (wholeLast segments) whole := by
  induction h with
  | here t => exact ⟨t, .here t⟩
  | on declared further ih =>
    rename_i fields name levels inner rest t
    cases rest with
    | nil =>
      have whole : Leads (.record fields) [⟨name, 0⟩] (inner.nested levels) := .on declared (.here _)
      exact ⟨_, whole⟩
    | cons next rest =>
      obtain ⟨whole, later⟩ := ih
      exact ⟨whole, .on declared later⟩

theorem Leads.exists_target {t u : FieldType} {segments : List PathSegment} (h : Leads t segments u) (nullTest : Bool) :
    ∃ target, Leads t (if nullTest then wholeLast segments else segments) target ∧
      (nullTest = false → target = u) := by
  cases nullTest with
  | false => exact ⟨u, h, fun _ => rfl⟩
  | true =>
    obtain ⟨whole, further⟩ := h.exists_wholeLast
    exact ⟨whole, further, fun compares => by cases compares⟩

theorem Hop.fits_nest {p : Predicate} {inner : FieldType} (h : ∀ v, inner.admits v = true → p.Fits v) (levels : Nat)
    {v : Value} (admitted : (inner.nested levels).admits v = true) : (nest p levels).Fits v := by
  induction levels generalizing v with
  | zero => exact h v admitted
  | succ levels ih =>
    obtain ⟨items, listed, elements⟩ := FieldType.itemsStrictly_of_admits admitted
    exact Predicate.fits_anyElement v.followStrictly_nil listed fun item hitem => ih (elements item hitem)

theorem Hop.fits_wrap {hop : Hop} (deep : hop.depth ≠ 0) {p : Predicate} {inner : FieldType} {v w : Value}
    (h : ∀ v, inner.admits v = true → p.Fits v) (followed : v.followStrictly hop.path = .ok w)
    (admitted : (inner.nested hop.depth).admits w = true) : (hop.wrap p).Fits v := by
  obtain ⟨levels, hlevels⟩ : ∃ levels, hop.depth = levels + 1 := Nat.exists_eq_succ_of_ne_zero deep
  rw [hlevels] at admitted
  obtain ⟨items, listed, elements⟩ := FieldType.itemsStrictly_of_admits admitted
  rw [wrap, hlevels, Nat.add_sub_cancel]
  exact Predicate.fits_anyElement followed listed fun item hitem => fits_nest h levels (elements item hitem)

theorem ResolvedPath.fits_splitFrom {t u : FieldType} {segments : List PathSegment} (leads : Leads t segments u)
    {pending : List String} {leaf : Predicate}
    (h : ∀ v w, v.followStrictly (splitFrom pending segments).2 = .ok w → u.admits w = true → leaf.Fits v)
    {v w : Value} (followed : v.followStrictly pending = .ok w) (admitted : t.admits w = true) :
    ((splitFrom pending segments).1.foldr Hop.wrap leaf).Fits v := by
  induction leads generalizing pending v w with
  | here t => exact h v w followed admitted
  | on declared further ih =>
    rename_i fields name levels inner rest t
    obtain ⟨x, got, typed⟩ := FieldType.getStrictly_of_admits admitted declared
    have next : v.followStrictly (pending ++ [name]) = .ok x := by
      rw [Value.followStrictly_append, followed]
      exact got
    by_cases plain : levels = 0
    · rw [splitFrom_of_plain plain] at h ⊢
      subst plain
      exact ih h next typed
    · rw [splitFrom_of_deep plain] at h ⊢
      exact Hop.fits_wrap plain (fun v hv => ih h v.followStrictly_nil hv) next typed

namespace Condition

variable (c : Condition) {field : FieldRef} {ls : List Literal} {body : Predicate} {v w : Value}

theorem fits_of_body (h : c.body field ls = .ok body) (followed : v.followStrictly field = .ok w)
    (scalar : c.operator.isNullTest = false → w.isScalar = true) : body.Fits v := by
  obtain ⟨sort, name, type, op, values⟩ := c
  cases op with
  | equal | notEqual | iEqual | iNotEqual | greaterThan | greaterThanOrEqual | lessThan | lessThanOrEqual =>
    obtain ⟨l, -, rfl⟩ := Outcome.map_eq_ok_iff.1 h
    exact Predicate.fits_compare followed (scalar rfl) _ l _
  | contains | notContains | iContains | iNotContains | startsWith | notStartsWith | iStartsWith | iNotStartsWith
  | endsWith | notEndsWith | iEndsWith | iNotEndsWith =>
    obtain ⟨l, -, rest⟩ := Outcome.bind_eq_ok_iff.1 h
    obtain ⟨s, -, built⟩ := Outcome.bind_eq_ok_iff.1 rest
    cases built
    exact Predicate.fits_like followed (scalar rfl) _ _ _
  | isIn | iIsIn =>
    cases h
    refine Predicate.fits_disjunction fun p hp => ?_
    obtain ⟨l, -, rfl⟩ := List.mem_map.1 hp
    exact Predicate.fits_compare followed (scalar rfl) _ l _
  | isNotIn | iIsNotIn =>
    cases h
    refine Predicate.fits_conjunction fun p hp => ?_
    obtain ⟨l, -, rfl⟩ := List.mem_map.1 hp
    exact Predicate.fits_compare followed (scalar rfl) _ l _
  | between =>
    obtain ⟨⟨lo, hi⟩, -, rfl⟩ := Outcome.map_eq_ok_iff.1 h
    refine Predicate.fits_and (List.forall_mem_cons.2 ⟨?_, List.forall_mem_singleton.2 ?_⟩)
    · exact Predicate.fits_compare followed (scalar rfl) _ lo _
    · exact Predicate.fits_compare followed (scalar rfl) _ hi _
  | notBetween =>
    obtain ⟨⟨lo, hi⟩, -, rfl⟩ := Outcome.map_eq_ok_iff.1 h
    refine Predicate.fits_or (List.forall_mem_cons.2 ⟨?_, List.forall_mem_singleton.2 ?_⟩)
    · exact Predicate.fits_compare followed (scalar rfl) _ lo _
    · exact Predicate.fits_compare followed (scalar rfl) _ hi _
  | isNull =>
    cases h
    exact Predicate.fits_isNull followed
  | isNotNull =>
    cases h
    exact Predicate.fits_isNotNull followed

theorem fits_of_leaf (h : c.body field ls = .ok body) (followed : v.followStrictly field = .ok w)
    (scalar : c.operator.isNullTest = false → w.isScalar = true) :
    (if c.operator.isNullTest then body else .and [.isNotNull field, body]).Fits v := by
  have own := c.fits_of_body h followed scalar
  cases c.operator.isNullTest with
  | true => exact own
  | false =>
    exact Predicate.fits_and (List.forall_mem_cons.2 ⟨Predicate.fits_isNotNull followed,
      List.forall_mem_singleton.2 own⟩)

theorem exists_body_of_predicate {path : ResolvedPath} {p : Predicate} (h : c.predicate path ls = .ok p) :
    ∃ fs body, c.body (path.target c.operator.isNullTest).2 fs = .ok body ∧
      p = (path.target c.operator.isNullTest).1.foldr Hop.wrap
        (if c.operator.isNullTest then body else .and [.isNotNull (path.target c.operator.isNullTest).2, body]) := by
  unfold predicate at h
  generalize path.target c.operator.isNullTest = target at h ⊢
  obtain ⟨hops, field⟩ := target
  obtain ⟨body, hbody, built⟩ := Outcome.bind_eq_ok_iff.1 h
  exact ⟨_, body, hbody, (Except.ok.inj built).symm⟩

/-- On a record that conforms to the schema, a condition on any of its paths is evaluated without a misfit. -/
theorem evaluate_of_admits {schema : Schema} {text : String} {path : ResolvedPath} {p : Predicate}
    (resolved : schema.resolve text = .ok path) (built : c.predicate path ls = .ok p) {α : Type} [HasFields α] {a : α}
    (conforms : Fields.admits schema.fields (HasFields.fields a) = true) :
    p.evaluate (scope a) = .ok (p.accepts a) := by
  have leads := Schema.leads_of_resolve resolved
  have typed : (FieldType.record schema.fields).admits (scope a) = true := conforms
  obtain ⟨fs, body, hbody, rfl⟩ := c.exists_body_of_predicate built
  obtain ⟨u, further, scalar⟩ := leads.exists_target c.operator.isNullTest
  refine Predicate.Fits.evaluate_eq ?_
  rw [path.target_eq_splitFrom] at hbody ⊢
  refine ResolvedPath.fits_splitFrom further (fun v w followed admitted => ?_) (Value.followStrictly_nil _) typed
  refine c.fits_of_leaf hbody followed fun compares => ?_
  rw [scalar compares] at admitted
  exact FieldType.isScalar_of_admits admitted

end Condition

def sparseTable : Record :=
  [("Rows", .list [.null, .list [.null, .record [("Labels", .list [.null, .text "a"])], .record []],
    .list [.record [("Labels", .null)], .record [("Labels", .list [.text "X"])]]])]

theorem labelTest_evaluate_tables :
    Fields.admits Compiler.cellFilters.schema.fields sparseTable = true ∧
      Compiler.labelTest.evaluate (scope sparseTable) = .ok true ∧
      Fields.admits Compiler.cellFilters.schema.fields Compiler.raggedTable = false ∧
      Compiler.labelTest.evaluate (scope Compiler.raggedTable) = .error (.hop (.bool true) "Labels") := by
  have resolved : Compiler.cellFilters.schema.resolve Compiler.labelled.field =
      .ok ⟨[⟨"Rows", 2⟩, ⟨"Labels", 1⟩], .text⟩ := by cbv
  have built : Compiler.labelled.predicate ⟨[⟨"Rows", 2⟩, ⟨"Labels", 1⟩], .text⟩ [.text "X"] =
      .ok Compiler.labelTest := by cbv
  have conforms : Fields.admits Compiler.cellFilters.schema.fields sparseTable = true := by cbv
  have evaluated := Compiler.labelled.evaluate_of_admits resolved built (a := sparseTable) conforms
  refine ⟨conforms, ?_, by cbv, by cbv⟩
  rw [evaluated]
  cbv

end RecordFilter
