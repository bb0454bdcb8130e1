import Mathlib
import RecordFilter.Proofs.Condition.Validity
import RecordFilter.Proofs.Pattern.Search
import RecordFilter.Proofs.Value.Coercion

set_option autoImplicit false

namespace RecordFilter

namespace Comparison

def opposite : Comparison → Comparison
  | eq => ne
  | ne => eq
  | gt => lte
  | gte => lt
  | lt => gte
  | lte => gt

theorem holds_opposite (c : Comparison) (order : Ordering) : c.opposite.holds order = !c.holds order := by
  cases c <;> cases order <;> rfl

end Comparison

namespace Operator

def negation? : Operator → Option Operator
  | equal => some notEqual
  | iEqual => some iNotEqual
  | isIn => some isNotIn
  | iIsIn => some iIsNotIn
  | between => some notBetween
  | contains => some notContains
  | iContains => some iNotContains
  | startsWith => some notStartsWith
  | iStartsWith => some iNotStartsWith
  | endsWith => some notEndsWith
  | iEndsWith => some iNotEndsWith
  | _ => none

variable {o o' : Operator} {type : DataType} {l : Literal} {ls : List Literal} {v : Value}

theorem negation_agrees (pair : o.negation? = some o') :
    o'.arity = o.arity ∧ o'.isCaseInsensitive = o.isCaseInsensitive ∧ o.isNullTest = false ∧ o'.isNullTest = false ∧
      ∀ t, o'.supports t = o.supports t := by
  cases o <;> cases pair <;> exact ⟨rfl, rfl, rfl, rfl, fun t => by cases t <;> rfl⟩

theorem isOf_folded (h : l.IsOf type) (o : Operator) : (o.folded l).IsOf type := by
  unfold folded
  split
  · exact h.foldCase
  · exact h

theorem relates_of_not_coerces (h : v.coerces type = false) (typed : l.IsOf type) (o : Operator) (r : Comparison) :
    o.relates r v l = false := by
  have apart := v.isSome_compareLiteral? (isOf_folded typed o) o.isCaseInsensitive
  rw [h, Option.isSome_eq_false_iff, Option.isNone_iff_eq_none] at apart
  rw [relates, apart]

theorem relates_opposite (h : v.coerces type = true) (typed : l.IsOf type) (o : Operator) (r : Comparison) :
    o.relates r.opposite v l = !o.relates r v l := by
  have placed := v.isSome_compareLiteral? (isOf_folded typed o) o.isCaseInsensitive
  rw [h, Option.isSome_iff_exists] at placed
  obtain ⟨order, compared⟩ := placed
  rw [relates, relates, compared]
  exact r.holds_opposite order

theorem resembles_of_not_coerces (h : v.coerces .text = false) (o : Operator) (shape : String → LikePattern)
    (negated : Bool) (l : Literal) : o.resembles shape negated v l = false := by
  cases v with
  | text s => cases h
  | _ => rfl

theorem resembles_not (h : v.coerces .text = true) (typed : l.IsOf .text) (o : Operator)
    (shape : String → LikePattern) : o.resembles shape true v l = !o.resembles shape false v l := by
  cases typed with
  | text t =>
    cases v with
    | text s => simp [resembles_text]
    | _ => cases h

theorem admits_of_not_coerces {most : Nat} (supported : o.supports type = true)
    (counted : o.arity.Allows most ls.length) (compares : o.isNullTest = false) (typed : ∀ l ∈ ls, l.IsOf type)
    (h : v.coerces type = false) : o.admits ls v = false := by
  cases o with
  | equal | notEqual | iEqual | iNotEqual | greaterThan | greaterThanOrEqual | lessThan | lessThanOrEqual =>
    obtain ⟨l, rfl⟩ := List.length_eq_one_iff.1 counted
    exact relates_of_not_coerces h (typed l List.mem_cons_self) _ _
  | contains | notContains | iContains | iNotContains | startsWith | notStartsWith | iStartsWith | iNotStartsWith
  | endsWith | notEndsWith | iEndsWith | iNotEndsWith =>
    obtain rfl : type = .text := dataType_of_isPattern rfl supported
    obtain ⟨l, rfl⟩ := List.length_eq_one_iff.1 counted
    exact resembles_of_not_coerces h _ _ _ l
  | isIn | iIsIn =>
    apply List.any_eq_false.2
    intro l hl
    simp [relates_of_not_coerces h (typed l hl)]
  | isNotIn | iIsNotIn =>
    obtain ⟨l, hl⟩ := List.exists_mem_of_length_pos counted.1
    apply List.all_eq_false.2
    exact ⟨l, hl, by simp [relates_of_not_coerces h (typed l hl)]⟩
  | between | notBetween =>
    obtain ⟨lo, hi, rfl⟩ := List.length_eq_two.1 counted
    have first := relates_of_not_coerces h (typed lo List.mem_cons_self)
    have second := relates_of_not_coerces h (typed hi (List.mem_cons_of_mem lo List.mem_cons_self))
    simp [admits, two, first, second]
  | isNull | isNotNull => cases compares

theorem admits_negation {most : Nat} (pair : o.negation? = some o') (supported : o.supports type = true)
    (counted : o.arity.Allows most ls.length) (typed : ∀ l ∈ ls, l.IsOf type) (h : v.coerces type = true) :
    o'.admits ls v = !o.admits ls v := by
  cases o with
  | equal | iEqual =>
    cases pair
    obtain ⟨l, rfl⟩ := List.length_eq_one_iff.1 counted
    exact relates_opposite h (typed l List.mem_cons_self) _ .eq
  | isIn | iIsIn =>
    cases pair
    rw [admits, admits, List.not_any_eq_all_not, Bool.eq_iff_iff, List.all_eq_true, List.all_eq_true]
    refine forall₂_congr fun l hl => ?_
    rw [← relates_opposite h (typed l hl)]
    rfl
  | between =>
    cases pair
    obtain ⟨lo, hi, rfl⟩ := List.length_eq_two.1 counted
    have first := relates_opposite h (typed lo List.mem_cons_self) between .gte
    have second := relates_opposite h (typed hi (List.mem_cons_of_mem lo List.mem_cons_self)) between .lte
    change (_ || _) = !(between.relates .gte v lo && between.relates .lte v hi)
    rw [Bool.not_and, ← first, ← second]
    rfl
  | contains | iContains | startsWith | iStartsWith | endsWith | iEndsWith =>
    cases pair
    obtain rfl : type = .text := dataType_of_isPattern rfl supported
    obtain ⟨l, rfl⟩ := List.length_eq_one_iff.1 counted
    exact resembles_not h (typed l List.mem_cons_self) _ _
  | _ => cases pair

/-- A field satisfies an operator or its negation if it is taken for a value of the data type, and else neither. -/
theorem satisfiedBy_negation {most : Nat} (pair : o.negation? = some o') (supported : o.supports type = true)
    (counted : o.arity.Allows most ls.length) (typed : ∀ l ∈ ls, l.IsOf type) :
    (v.isNull = true ∨ v.coerces type = false → o.satisfiedBy ls v = false ∧ o'.satisfiedBy ls v = false) ∧
      (v.isNull = false → v.coerces type = true → o'.satisfiedBy ls v = !o.satisfiedBy ls v) := by
  obtain ⟨arity, -, compares, compares', supports⟩ := negation_agrees pair
  rw [satisfiedBy_of_not_isNullTest compares, satisfiedBy_of_not_isNullTest compares']
  constructor
  · rintro (null | other)
    · simp [null]
    · have first := admits_of_not_coerces supported counted compares typed other
      have second := admits_of_not_coerces ((supports type).trans supported) (arity ▸ counted) compares' typed other
      simp [first, second]
  · intro present coerced
    simp [present, admits_negation pair supported counted typed coerced]

end Operator

def ResolvedPath.valueIn {α : Type} [HasFields α] (path : ResolvedPath) (a : α) : Value := (scope a).follow path.names

namespace Condition

theorem isOf_of_mem_literals {c : Condition} {most : Nat} {ls : List Literal} (h : c.literals most = .ok ls) :
    ∀ l ∈ ls, l.IsOf c.dataType := by
  obtain ⟨-, -, -, read⟩ := literals_eq_ok_iff.1 h
  intro l hl
  obtain ⟨s, -, written⟩ := Outcome.exists_of_forall₂_of_mem read.flip hl
  exact Literal.isOf_of_ofText written

theorem literals_negation {c : Condition} {o : Operator} {most : Nat} {ls : List Literal}
    (pair : c.operator.negation? = some o) (h : c.literals most = .ok ls) :
    { c with operator := o }.literals most = .ok ls := by
  obtain ⟨arity, -, -, -, supports⟩ := Operator.negation_agrees pair
  exact literals_with_operator arity ((supports _).trans (literals_eq_ok_iff.1 h).1) h

theorem accepts_of_not_isExistential {α : Type} [HasFields α] {c : Condition} {path : ResolvedPath} {p : Predicate}
    {most : Nat} {ls : List Literal} (plain : path.isExistential = false) (comparing : c.operator.isNullTest = false)
    (h : c.literals most = .ok ls) (built : c.predicate path ls = .ok p) (a : α) :
    p.accepts a = c.operator.satisfiedBy ls (path.valueIn a) := by
  rw [accepts_of_predicate h built, comparing, path.leaves_of_not_isExistential plain, List.any_cons, List.any_nil,
    Bool.or_false]
  rfl

end Condition

namespace Compiler

variable (k : Compiler)

/-- A condition and its negation both compile. A thing is accepted by neither of them where the field is null or not
taken for a value of the data type, and everywhere else by exactly one. -/
theorem compileCondition_negation {α : Type} [HasFields α] {c : Condition} {o : Operator} {path : ResolvedPath}
    {ls : List Literal} (pair : c.operator.negation? = some o) (resolved : k.schema.resolve c.field = .ok path)
    (plain : path.isExistential = false) (valid : c.literals k.config.maxInValues = .ok ls) :
    ∃ p q, k.compileCondition c = .ok p ∧ k.compileCondition { c with operator := o } = .ok q ∧
      ∀ a : α,
        ((path.valueIn a).isNull = true ∨ (path.valueIn a).coerces c.dataType = false →
          p.accepts a = false ∧ q.accepts a = false) ∧
        ((path.valueIn a).isNull = false → (path.valueIn a).coerces c.dataType = true →
          q.accepts a = !p.accepts a) := by
  obtain ⟨-, -, comparing, comparing', -⟩ := Operator.negation_agrees pair
  have valid' := Condition.literals_negation pair valid
  obtain ⟨p, built⟩ := Condition.exists_predicate valid path
  obtain ⟨q, built'⟩ := Condition.exists_predicate valid' path
  refine ⟨p, q, k.compileCondition_eq_ok_iff.2 ⟨path, ls, resolved, valid, built⟩,
    k.compileCondition_eq_ok_iff.2 ⟨path, ls, resolved, valid', built'⟩, ?_⟩
  intro a
  rw [Condition.accepts_of_not_isExistential plain comparing valid built,
    Condition.accepts_of_not_isExistential plain comparing' valid' built']
  exact Operator.satisfiedBy_negation pair (Condition.literals_eq_ok_iff.1 valid).1
    (Condition.allows_length_of_literals valid) (Condition.isOf_of_mem_literals valid)

def weightFilters : Compiler := ⟨⟨"weight", [("W", .scalar .number)], none⟩, .standard⟩

def outOfRange : Condition := ⟨1, "W", .number, .between, ["2.5", "1"]⟩

theorem outOfRange_or_not :
    outOfRange.operator.negation? = some .notBetween ∧
      ∃ p q, weightFilters.compileCondition outOfRange = .ok p ∧
        weightFilters.compileCondition { outOfRange with operator := .notBetween } = .ok q ∧
        (p.accepts ([("W", .null)] : Record) = false ∧ q.accepts ([("W", .null)] : Record) = false) ∧
        q.accepts ([("W", .integer ⟨2, by decide, by decide⟩)] : Record) =
          !p.accepts ([("W", .integer ⟨2, by decide, by decide⟩)] : Record) := by
  have resolved : weightFilters.schema.resolve outOfRange.field = .ok ⟨[⟨"W", 0⟩], .number⟩ := rfl
  have accepted : (outOfRange.literals weightFilters.config.maxInValues).toOption.isSome = true := by decide +kernel
  cases valid : outOfRange.literals weightFilters.config.maxInValues with
  | error e =>
    rw [valid] at accepted
    cases accepted
  | ok ls =>
    obtain ⟨p, q, compiled, compiled', agree⟩ :=
      weightFilters.compileCondition_negation (α := Record) (c := outOfRange) rfl resolved rfl valid
    exact ⟨rfl, p, q, compiled, compiled', (agree _).1 (Or.inl rfl), (agree _).2 rfl rfl⟩

end Compiler

end RecordFilter
