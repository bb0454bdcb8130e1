import Mathlib
import RecordFilter.Proofs.Condition.Conformity
import RecordFilter.Proofs.Pattern.Casing

set_option autoImplicit false

/-!
# Operators that ignore case

An operator that ignores case is satisfied by whatever satisfies the one that does not, or the other way round where
the two ask for a value that is not there. So it is for whole texts. For parts of texts it is so only if the part is
lowercased alike wherever it is found.
-/

namespace RecordFilter

namespace Operator

/-- The operator of the same kind that is to accept all that this one accepts: it ignores case in addition, or it no
longer does where the value is not to be there. -/
def wider? : Operator → Option Operator
  | equal => some iEqual
  | isIn => some iIsIn
  | contains => some iContains
  | startsWith => some iStartsWith
  | endsWith => some iEndsWith
  | iNotEqual => some notEqual
  | iIsNotIn => some isNotIn
  | iNotContains => some notContains
  | iNotStartsWith => some notStartsWith
  | iNotEndsWith => some notEndsWith
  | _ => none

/-- Whether no capital sigma in the values could change its form where a value is found. -/
def keepsCase (o : Operator) (values : List String) : Bool :=
  match o.search? with
  | some (place, _) => values.all fun l => place.keepsCase [] l.toList
  | none => true

variable {o o' : Operator} {place : Place} {negated : Bool} {v : Value}

theorem keepsCase_of_not_mem (o : Operator) {values : List String} (h : ∀ l ∈ values, 'Σ' ∉ l.toList) :
    o.keepsCase values = true := by
  unfold keepsCase
  split
  · exact List.all_eq_true.2 fun l hl => Place.keepsCase_of_not_mem _ (h l hl)
  · rfl

theorem wider_agrees (pair : o.wider? = some o') :
    o'.arity = o.arity ∧ o'.supports .text = true ∧ o.isNullTest = false ∧ o'.isNullTest = false := by
  cases o <;> cases pair <;> exact ⟨rfl, rfl, rfl, rfl⟩

theorem search_of_wider (pair : o.wider? = some o') (h : o.search? = some (place, negated)) :
    o'.search? = some (place, negated) ∧ o.isCaseInsensitive = negated ∧ o'.isCaseInsensitive = !negated := by
  cases o <;> cases pair <;> cases h <;> exact ⟨rfl, rfl, rfl⟩

theorem relates_text_iff (o : Operator) (r : Comparison) (l : String) (v : Value) :
    o.relates r v (.text l) = true ↔ ∃ s, v = .text s ∧ r.holds (compare (o.cased s) (o.cased l)) = true := by
  rw [relates, folded_text]
  cases v with
  | text s =>
    simp only [Value.text.injEq, exists_eq_left']
    rfl
  | _ => simp [Value.compareLiteral?, Value.asText?]

theorem cased_eq_of_sensitive (sensitive : o.isCaseInsensitive = false) {s l : String} (same : o.cased s = o.cased l)
    (o' : Operator) : o'.cased s = o'.cased l := by
  unfold cased at same
  rw [sensitive] at same
  exact congrArg o'.cased same

theorem relates_eq_of_sensitive (sensitive : o.isCaseInsensitive = false) {l : String}
    (h : o.relates .eq v (.text l) = true) (o' : Operator) : o'.relates .eq v (.text l) = true := by
  obtain ⟨s, rfl, same⟩ := (o.relates_text_iff .eq l v).1 h
  simp only [Comparison.holds, beq_iff_eq, Std.compare_eq_iff_eq] at same
  refine (o'.relates_text_iff .eq l _).2 ⟨s, rfl, ?_⟩
  simpa [Comparison.holds] using cased_eq_of_sensitive sensitive same o'

theorem relates_ne_to_sensitive (sensitive : o'.isCaseInsensitive = false) {l : String}
    (h : o.relates .ne v (.text l) = true) : o'.relates .ne v (.text l) = true := by
  obtain ⟨s, rfl, apart⟩ := (o.relates_text_iff .ne l v).1 h
  simp only [Comparison.holds, bne_iff_ne, ne_eq, Std.compare_eq_iff_eq] at apart
  refine (o'.relates_text_iff .ne l _).2 ⟨s, rfl, ?_⟩
  have apart' : o'.cased s ≠ o'.cased l := fun same => apart (cased_eq_of_sensitive sensitive same o)
  simpa [Comparison.holds] using apart'

theorem one_mono {test test' : Literal → Bool} {ls : List Literal} (h : ∀ l ∈ ls, test l = true → test' l = true)
    (passed : one test ls = true) : one test' ls = true := by
  match ls with
  | [l] => exact h l List.mem_cons_self passed
  | [] | _ :: _ :: _ => cases passed

/-- An operator on whole texts accepts all that its sensitive form accepts, or all that its insensitive form accepts if
the texts are to differ. -/
theorem satisfiedBy_wider_of_whole (pair : o.wider? = some o') (whole : o.search? = none) {values : List String}
    (h : o.satisfiedBy (values.map .text) v = true) : o'.satisfiedBy (values.map .text) v = true := by
  obtain ⟨-, -, compares, compares'⟩ := wider_agrees pair
  rw [satisfiedBy_of_not_isNullTest compares, Bool.and_eq_true] at h
  rw [satisfiedBy_of_not_isNullTest compares', Bool.and_eq_true]
  refine ⟨h.1, ?_⟩
  have passed := h.2
  have texts {test : Literal → Prop} (hl : ∀ l, test (.text l)) : ∀ l ∈ values.map .text, test l := by
    rw [List.forall_mem_map]
    exact fun l _ => hl l
  cases o with
  | equal =>
    cases pair
    exact one_mono (texts fun l related => relates_eq_of_sensitive rfl related iEqual) passed
  | iNotEqual =>
    cases pair
    exact one_mono (texts fun l => relates_ne_to_sensitive rfl) passed
  | isIn =>
    cases pair
    obtain ⟨l, hl, related⟩ := List.any_eq_true.1 passed
    obtain ⟨l, -, rfl⟩ := List.mem_map.1 hl
    exact List.any_eq_true.2 ⟨_, hl, relates_eq_of_sensitive rfl related iIsIn⟩
  | iIsNotIn =>
    cases pair
    apply List.all_eq_true.2
    intro l hl
    have related := List.all_eq_true.1 passed l hl
    obtain ⟨l, -, rfl⟩ := List.mem_map.1 hl
    exact relates_ne_to_sensitive rfl related
  | contains | startsWith | endsWith | iNotContains | iNotStartsWith | iNotEndsWith => cases whole
  | _ => cases pair

theorem toList_cased (o : Operator) (s : String) :
    (o.cased s).toList = if o.isCaseInsensitive then Text.lowercase s.toList else s.toList := by
  unfold cased
  split
  · exact String.toList_ofList
  · rfl

theorem satisfiedBy_wider_of_search_iff (pair : o.wider? = some o') (searches : o.search? = some (place, negated))
    (l : String) :
    (∀ v, o.satisfiedBy [.text l] v = true → o'.satisfiedBy [.text l] v = true) ↔
      place.keepsCase [] l.toList = true := by
  obtain ⟨searches', cased, cased'⟩ := search_of_wider pair searches
  have found (s : String) : o.satisfiedBy [.text l] (.text s) = true → o'.satisfiedBy [.text l] (.text s) = true ↔
      place.Finds l.toList s.toList → place.Finds (Text.lowercase l.toList) (Text.lowercase s.toList) := by
    simp only [satisfiedBy_search_iff searches, satisfiedBy_search_iff searches', toList_cased, cased, cased',
      Value.text.injEq, exists_eq_left']
    cases negated with
    | false => simp
    | true => simp [not_imp_not]
  rw [place.keepsCase_iff]
  constructor
  · intro h t
    have there := (found (String.ofList t)).1 (h _)
    rwa [String.toList_ofList] at there
  · intro h v satisfied
    obtain ⟨s, rfl, -⟩ := (satisfiedBy_search_iff searches l v).1 satisfied
    exact (found s).2 (h s.toList) satisfied

theorem satisfiedBy_wider_iff {most : Nat} (pair : o.wider? = some o') {values : List String}
    (counted : o.arity.Allows most values.length) :
    (∀ v, o.satisfiedBy (values.map .text) v = true → o'.satisfiedBy (values.map .text) v = true) ↔
      o.keepsCase values = true := by
  unfold keepsCase
  cases searches : o.search? with
  | none => exact iff_of_true (fun v => satisfiedBy_wider_of_whole pair searches) rfl
  | some search =>
    obtain ⟨place, negated⟩ := search
    rw [arity_of_search searches] at counted
    obtain ⟨l, rfl⟩ := List.length_eq_one_iff.1 counted
    dsimp only
    rw [List.all_cons, List.all_nil, Bool.and_true]
    exact satisfiedBy_wider_of_search_iff pair searches l

end Operator

namespace Compiler

variable (k : Compiler)

/-- With its operator in the wider form, a condition on texts compiles as well. It still accepts everything if its
values keep their case, and else it refuses some record that was accepted. -/
theorem compileCondition_wider {α : Type} [HasFields α] {c : Condition} {o : Operator} {p : Predicate}
    (text : c.dataType = .text) (pair : c.operator.wider? = some o) (h : k.compileCondition c = .ok p) :
    ∃ q, k.compileCondition { c with operator := o } = .ok q ∧
      (c.operator.keepsCase c.values = true → ∀ a : α, p.accepts a = true → q.accepts a = true) ∧
      (c.operator.keepsCase c.values = false → ∃ r : Record, p.accepts r = true ∧ q.accepts r = false) := by
  obtain ⟨path, ls, resolved, valid, built⟩ := k.compileCondition_eq_ok_iff.1 h
  obtain ⟨arity, supported, compares, compares'⟩ := Operator.wider_agrees pair
  have valid' := Condition.literals_with_operator arity (text ▸ supported) valid
  obtain ⟨q, built'⟩ := Condition.exists_predicate valid' path
  have counted := (Condition.literals_eq_ok_iff.1 valid).2.1
  obtain rfl := Condition.literals_of_text valid text
  have wider := Operator.satisfiedBy_wider_iff pair counted
  refine ⟨q, k.compileCondition_eq_ok_iff.2 ⟨path, _, resolved, valid', built'⟩, fun kept a accepted => ?_,
    fun lost => ?_⟩
  · rw [Condition.accepts_of_predicate valid built, compares, List.any_eq_true] at accepted
    rw [Condition.accepts_of_predicate valid' built', compares', List.any_eq_true]
    obtain ⟨v, leaf, satisfied⟩ := accepted
    exact ⟨v, leaf, wider.2 kept v satisfied⟩
  · have narrower : ∃ v, c.operator.satisfiedBy (c.values.map .text) v = true ∧
        o.satisfiedBy (c.values.map .text) v = false := by
      by_contra none
      simp only [not_exists, not_and, Bool.not_eq_false] at none
      rw [wider.1 none] at lost
      cases lost
    obtain ⟨v, satisfied, refused⟩ := narrower
    obtain ⟨r, leaves⟩ := Schema.exists_leaves_of_resolve resolved v
    refine ⟨r, ?_, ?_⟩
    · rw [Condition.accepts_of_predicate valid built, compares, leaves, List.any_cons, satisfied, Bool.true_or]
    · rw [Condition.accepts_of_predicate valid' built', compares', leaves, List.any_cons, refused, List.any_nil,
        Bool.false_or]

def endsInSigma : Condition := ⟨1, "t", .text, .endsWith, ["ΟΔΟΣ"]⟩

def hasSigma : Condition := ⟨1, "t", .text, .contains, ["ΑΣ"]⟩

theorem endsInSigma_wider :
    endsInSigma.operator.wider? = some .iEndsWith ∧
      endsInSigma.operator.keepsCase endsInSigma.values = true ∧
      ∃ p q, noteFilters.compileCondition endsInSigma = .ok p ∧
        noteFilters.compileCondition { endsInSigma with operator := .iEndsWith } = .ok q ∧
        ∀ r : Record, p.accepts r = true → q.accepts r = true := by
  have kept : endsInSigma.operator.keepsCase endsInSigma.values = true := by decide +kernel
  have compiled : noteFilters.compileCondition endsInSigma =
      .ok (.and [.isNotNull ["T"], .like ["T"] (.endingWith "ΟΔΟΣ") false false]) := rfl
  obtain ⟨q, compiled', accepts, -⟩ := noteFilters.compileCondition_wider (α := Record) rfl rfl compiled
  exact ⟨rfl, kept, _, q, compiled, compiled', accepts kept⟩

theorem hasSigma_not_wider :
    hasSigma.operator.wider? = some .iContains ∧ hasSigma.dataType = .text ∧
      ∃ p q, noteFilters.compileCondition hasSigma = .ok p ∧
        noteFilters.compileCondition { hasSigma with operator := .iContains } = .ok q ∧
        p.accepts ([("T", .text "ΑΣΑ")] : Record) = true ∧ q.accepts ([("T", .text "ΑΣΑ")] : Record) = false := by
  refine ⟨rfl, rfl, _, _, rfl, rfl, ?_, ?_⟩
  · decide +kernel
  · decide +kernel

end Compiler

end RecordFilter
