import Mathlib
import RecordFilter.Proofs.Condition.Conformity
import RecordFilter.Proofs.Condition.Validity
import RecordFilter.Proofs.Value.Exactness

set_option autoImplicit false

/-!
# Numbers written with a point or an exponent

A whole number can be written as such or as a decimal. A condition accepts the same records either way, as long as no
field is another whole number that is rounded to that one: where the number is written as a decimal, such a field is
its equal.
-/

namespace RecordFilter

/-- One of two things stands where the other one stood, or a thing where it was. -/
inductive Exchanged {α : Type} (s t : α) : α → α → Prop
  | same (a : α) : Exchanged s t a a
  | there : Exchanged s t s t
  | back : Exchanged s t t s

namespace Exchanged

variable {α β ε : Type} {s t : α}

/-- What is read from exchanged things is exchanged. -/
theorem exists_read {f : α → Except ε β} {s' t' : β} (hs : f s = .ok s') (ht : f t = .ok t') {as bs : List α}
    (h : List.Forall₂ (Exchanged s t) as bs) {ls : List β} (read : List.Forall₂ (fun a l => f a = .ok l) as ls) :
    ∃ ms, List.Forall₂ (fun b m => f b = .ok m) bs ms ∧ List.Forall₂ (Exchanged s' t') ls ms := by
  induction h generalizing ls with
  | nil =>
    cases read
    exact ⟨[], .nil, .nil⟩
  | cons first rest ih =>
    cases read with
    | cons head tail =>
      obtain ⟨ms, read', exchanged⟩ := ih tail
      cases first with
      | same => exact ⟨_ :: ms, .cons head read', .cons (.same _) exchanged⟩
      | there =>
        cases hs.symm.trans head
        exact ⟨t' :: ms, .cons ht read', .cons .there exchanged⟩
      | back =>
        cases ht.symm.trans head
        exact ⟨s' :: ms, .cons hs read', .cons .back exchanged⟩

end Exchanged

namespace Operator

def comparison? : Operator → Option Comparison
  | equal => some .eq
  | notEqual => some .ne
  | greaterThan => some .gt
  | greaterThanOrEqual => some .gte
  | lessThan => some .lt
  | lessThanOrEqual => some .lte
  | _ => none

variable {o : Operator} {x : Double} {i : Whole} {v : Value}

theorem folded_integer (o : Operator) (i : Whole) : o.folded (.integer i) = .integer i := ite_self _

theorem folded_number (o : Operator) (x : Double) : o.folded (.number x) = .number x := ite_self _

theorem relates_number (h : x.real? = some i.real) (v : Value) (r : Comparison) :
    o.relates r v (.number x) = if v.roundsTo i then r.holds .eq else o.relates r v (.integer i) := by
  unfold relates
  rw [folded_number, folded_integer, Value.compareLiteral?_number h]
  cases v.roundsTo i <;> rfl

theorem alike_there (h : x.real? = some i.real) (apart : v.roundsTo i = false) :
    o.Alike v v (.integer i) (.number x) where
  relates r := by
    rw [relates_number h, apart, if_neg Bool.false_ne_true]
  resembles shape negated := by
    unfold resembles
    rw [folded_number, folded_integer]
    cases v <;> rfl

theorem alike_of_exchanged (h : x.real? = some i.real) (apart : v.roundsTo i = false) {l m : Literal}
    (exchanged : Exchanged (.integer i) (.number x) l m) : o.Alike v v l m := by
  have there := alike_there (o := o) h apart
  cases exchanged with
  | same l => exact ⟨fun _ => rfl, fun _ _ => rfl⟩
  | there => exact there
  | back => exact ⟨fun r => (there.relates r).symm, fun shape negated => (there.resembles shape negated).symm⟩

theorem satisfiedBy_of_exchanged (h : x.real? = some i.real) (apart : v.roundsTo i = false) {ls ms : List Literal}
    (exchanged : List.Forall₂ (Exchanged (.integer i) (.number x)) ls ms) : o.satisfiedBy ls v = o.satisfiedBy ms v := by
  rw [satisfiedBy, satisfiedBy, admits_congr (exchanged.imp fun _ _ => alike_of_exchanged h apart)]

theorem isNullTest_of_comparison {r : Comparison} (single : o.comparison? = some r) : o.isNullTest = false := by
  cases o with
  | isNull | isNotNull => cases single
  | _ => rfl

/-- A field that is a whole number satisfies a comparison as the order of the two numbers has it. -/
theorem satisfiedBy_comparison {r : Comparison} (single : o.comparison? = some r) (l : Literal) (w : Whole) :
    o.satisfiedBy [l] (.integer w) = o.relates r (.integer w) l := by
  cases o with
  | equal | notEqual | greaterThan | greaterThanOrEqual | lessThan | lessThanOrEqual =>
    cases single
    rfl
  | _ => cases single

end Operator

namespace Condition

variable {c : Condition} {values' : List String}

theorem isBlank_of_ofText_number {s : String} {l : Literal} (h : Literal.ofText .number s = .ok l) :
    isBlank s = false := by
  rw [← Bool.not_eq_true]
  intro blank
  have nothing : Text.trim s.toList = [] := by
    rw [Text.trim, Text.trimStart, List.dropWhile_eq_nil_iff.2 (List.all_eq_true.1 blank)]
    rfl
  have unread : Literal.readNumber? [] = none := rfl
  rw [Literal.ofText, Literal.read?, nothing, unread] at h
  cases h

theorem literals_of_exchanged {most : Nat} {s t : String} {l m : Literal} (number : c.dataType = .number)
    (hs : Literal.ofText .number s = .ok l) (ht : Literal.ofText .number t = .ok m)
    (h : List.Forall₂ (Exchanged s t) c.values values') {ls : List Literal} (valid : c.literals most = .ok ls) :
    ∃ ms, { c with values := values' }.literals most = .ok ms ∧ List.Forall₂ (Exchanged l m) ls ms := by
  obtain ⟨supported, counted, -, read⟩ := literals_eq_ok_iff.1 valid
  rw [number] at read
  obtain ⟨ms, read', exchanged⟩ := Exchanged.exists_read hs ht h read
  refine ⟨ms, literals_eq_ok_iff.2 ⟨supported, ?_, ?_, ?_⟩, exchanged⟩
  · change c.operator.arity.Allows most values'.length
    rwa [← h.length_eq]
  · intro b hb
    obtain ⟨n, -, hn⟩ := Outcome.exists_of_forall₂_of_mem read' hb
    exact isBlank_of_ofText_number hn
  · change List.Forall₂ (fun b n => Literal.ofText c.dataType b = .ok n) values' ms
    rwa [number]

theorem literals_of_single {most : Nat} {s : String} {l : Literal} {ls : List Literal}
    (hs : Literal.ofText c.dataType s = .ok l) (single : c.values = [s]) (valid : c.literals most = .ok ls) :
    ls = [l] := by
  obtain ⟨-, -, -, read⟩ := literals_eq_ok_iff.1 valid
  rw [single] at read
  cases read with
  | cons first rest =>
    cases rest
    cases hs.symm.trans first
    rfl

/-- On a record that has one whole number where the path ends, a comparison is that of the number. -/
theorem accepts_of_single {most : Nat} {l : Literal} {path : ResolvedPath} {p : Predicate} {r : Comparison}
    (comparison : c.operator.comparison? = some r) (valid : c.literals most = .ok [l])
    (built : c.predicate path [l] = .ok p) {a : Record} {w : Whole} (leaves : path.leaves false (scope a) = [.integer w]) :
    p.accepts a = c.operator.relates r (.integer w) l := by
  have compares := Operator.isNullTest_of_comparison comparison
  rw [accepts_of_predicate valid built, compares, leaves, List.any_cons, List.any_nil, Bool.or_false,
    Operator.satisfiedBy_comparison comparison]

/-- With the one spelling in the place of the other a condition still has literals and a predicate. -/
theorem exists_predicate_exchanged {most : Nat} {s t : String} {l m : Literal} (number : c.dataType = .number)
    (hs : Literal.ofText .number s = .ok l) (ht : Literal.ofText .number t = .ok m)
    (h : List.Forall₂ (Exchanged s t) c.values values') {ls : List Literal} (valid : c.literals most = .ok ls)
    (path : ResolvedPath) :
    ∃ ms q, { c with values := values' }.literals most = .ok ms ∧ List.Forall₂ (Exchanged l m) ls ms ∧
      { c with values := values' }.predicate path ms = .ok q := by
  obtain ⟨ms, valid', exchanged⟩ := literals_of_exchanged number hs ht h valid
  obtain ⟨q, built⟩ := exists_predicate valid' path
  exact ⟨ms, q, valid', exchanged, built⟩

theorem accepts_of_exchanged {α : Type} [HasFields α] {most : Nat} {x : Double} {i : Whole} {ls ms : List Literal}
    {path : ResolvedPath} {p q : Predicate} (value : x.real? = some i.real) (valid : c.literals most = .ok ls)
    (valid' : { c with values := values' }.literals most = .ok ms)
    (exchanged : List.Forall₂ (Exchanged (.integer i) (.number x)) ls ms) (built : c.predicate path ls = .ok p)
    (built' : { c with values := values' }.predicate path ms = .ok q) {a : α}
    (apart : ∀ v ∈ path.leaves c.operator.isNullTest (scope a), v.roundsTo i = false) : q.accepts a = p.accepts a := by
  rw [accepts_of_predicate valid built, accepts_of_predicate valid' built']
  exact Outcome.any_eq_of_forall₂ (List.forall₂_same.2 fun v hv =>
    (Operator.satisfiedBy_of_exchanged value (apart v hv) exchanged).symm)

end Condition

namespace Compiler

variable (k : Compiler) {c : Condition} {values' : List String} {s t : String} {i : Whole} {x : Double}

/-- With one spelling of a whole number in the place of the other, a condition still compiles. It accepts what it did
unless a field is rounded to the number, and every number that is rounded to it can be a field for which a comparison
goes by the order of the two in the one spelling and takes them for equal in the other. -/
theorem compileCondition_exchanged {α : Type} [HasFields α] (number : c.dataType = .number)
    (whole : Literal.ofText .number s = .ok (.integer i)) (decimal : Literal.ofText .number t = .ok (.number x))
    (value : x.real? = some i.real) (h : List.Forall₂ (Exchanged s t) c.values values') {p : Predicate}
    (compiled : k.compileCondition c = .ok p) :
    ∃ q path, k.compileCondition { c with values := values' } = .ok q ∧ k.schema.resolve c.field = .ok path ∧
      (∀ a : α, (∀ v ∈ path.leaves c.operator.isNullTest (scope a), v.roundsTo i = false) →
        q.accepts a = p.accepts a) ∧
      ∀ r, c.operator.comparison? = some r → c.values = [s] → values' = [t] → ∀ w : Whole, w.roundsTo i = true →
        ∃ a : Record, p.accepts a = r.holds (compare w.toInt i.toInt) ∧ q.accepts a = r.holds .eq := by
  obtain ⟨path, ls, resolved, valid, built⟩ := k.compileCondition_eq_ok_iff.1 compiled
  obtain ⟨ms, q, valid', exchanged, built'⟩ :=
    Condition.exists_predicate_exchanged number whole decimal h valid path
  refine ⟨q, path, k.compileCondition_eq_ok_iff.2 ⟨path, ms, resolved, valid', built'⟩, resolved,
    fun a apart => Condition.accepts_of_exchanged value valid valid' exchanged built built' apart, ?_⟩
  intro r comparison old new w rounded
  obtain ⟨a, leaves⟩ := Schema.exists_leaves_of_resolve resolved (.integer w)
  obtain rfl := Condition.literals_of_single (number ▸ whole) old valid
  obtain rfl := Condition.literals_of_single (number ▸ decimal) new valid'
  refine ⟨a, ?_, ?_⟩
  · rw [Condition.accepts_of_single comparison valid built leaves, Operator.relates, Operator.folded_integer]
    rfl
  · rw [Condition.accepts_of_single (c := { c with values := values' }) comparison valid' built' leaves,
      Operator.relates_number value]
    exact if_pos rounded

/-- Below `2 ^ 53` the spelling of a whole number makes no difference. -/
theorem compileCondition_exchanged_of_small {α : Type} [HasFields α] (number : c.dataType = .number)
    (whole : Literal.ofText .number s = .ok (.integer i)) (decimal : Literal.ofText .number t = .ok (.number x))
    (value : x.real? = some i.real) (small : i.toInt.natAbs < 2 ^ 53)
    (h : List.Forall₂ (Exchanged s t) c.values values') {p : Predicate} (compiled : k.compileCondition c = .ok p) :
    ∃ q, k.compileCondition { c with values := values' } = .ok q ∧ ∀ a : α, q.accepts a = p.accepts a := by
  obtain ⟨path, ls, resolved, valid, built⟩ := k.compileCondition_eq_ok_iff.1 compiled
  obtain ⟨ms, q, valid', exchanged, built'⟩ :=
    Condition.exists_predicate_exchanged number whole decimal h valid path
  exact ⟨q, k.compileCondition_eq_ok_iff.2 ⟨path, ms, resolved, valid', built'⟩, fun a =>
    Condition.accepts_of_exchanged value valid valid' exchanged built built' fun v _ => v.roundsTo_of_small small⟩

def counterFilters : Compiler := ⟨⟨"counter", [("N", .scalar .number)], none⟩, .standard⟩

def blurred : Whole := ⟨2 ^ 53, by decide, by decide⟩

def blurredDouble : Double := Double.ofInt blurred.toInt

def counted (value : String) : Condition := ⟨1, "n", .number, .equal, [value]⟩

def countTest (l : Literal) : Predicate := .and [.isNotNull ["N"], .compare ["N"] .eq l false]

theorem compileCondition_counted {value : String} {l : Literal} (read : Literal.ofText .number value = .ok l) :
    counterFilters.compileCondition (counted value) = .ok (countTest l) := by
  have resolved : counterFilters.schema.resolve "n" = .ok ⟨[⟨"N", 0⟩], .number⟩ := rfl
  have filled : ∀ s ∈ [value], Condition.isBlank s = false :=
    List.forall_mem_singleton.2 (Condition.isBlank_of_ofText_number read)
  have valid : (counted value).literals 1000 = .ok [l] :=
    Condition.literals_eq_ok_iff.2 ⟨rfl, rfl, filled, .cons read .nil⟩
  exact counterFilters.compileCondition_eq_ok_iff.2 ⟨_, _, resolved, valid, rfl⟩

theorem ofText_blurred : Literal.ofText .number "9007199254740992" = .ok (.integer blurred) := by
  have read : Whole.read? (Text.trim "9007199254740992".toList) = some blurred := by decide +kernel
  simp only [Literal.ofText, Literal.read?, Literal.readNumber?, read]

theorem ofText_blurredDouble : Literal.ofText .number "9007199254740992.0" = .ok (.number blurredDouble) := by
  have unread : Whole.read? (Text.trim "9007199254740992.0".toList) = none := by decide +kernel
  have read : Double.readFinite? (Text.trim "9007199254740992.0".toList) = some blurredDouble := by decide +kernel
  simp only [Literal.ofText, Literal.read?, Literal.readNumber?, unread, read, Option.map_some]

theorem real?_blurredDouble : blurredDouble.real? = some blurred.real := Double.toWhole?_eq_some_iff.1 (by decide +kernel)

/-- The two spellings agree on the number itself and tell some other record apart. -/
theorem counted_exchanged :
    ∃ p q, counterFilters.compileCondition (counted "9007199254740992") = .ok p ∧
      counterFilters.compileCondition (counted "9007199254740992.0") = .ok q ∧
      q.accepts ([("N", .integer blurred)] : Record) = p.accepts ([("N", .integer blurred)] : Record) ∧
      ∃ a : Record, p.accepts a = false ∧ q.accepts a = true := by
  have texts : List.Forall₂ (Exchanged "9007199254740992" "9007199254740992.0") (counted "9007199254740992").values
      ["9007199254740992.0"] := .cons .there .nil
  obtain ⟨q, path, compiled, resolved, agrees, differs⟩ :=
    counterFilters.compileCondition_exchanged (α := Record) rfl ofText_blurred ofText_blurredDouble real?_blurredDouble
      texts (compileCondition_counted ofText_blurred)
  have path_eq : path = ⟨[⟨"N", 0⟩], .number⟩ := Except.ok.inj (resolved.symm.trans rfl)
  subst path_eq
  obtain ⟨a, refused, accepted⟩ := differs .eq rfl rfl rfl ⟨2 ^ 53 + 1, by decide, by decide⟩ (by decide +kernel)
  refine ⟨_, q, compileCondition_counted ofText_blurred, compiled, agrees _ ?_, a, refused.trans (by decide), accepted⟩
  intro v hv
  obtain rfl := List.mem_singleton.1 hv
  decide +kernel

/-- The next whole number is refused by the one spelling and accepted by the other. -/
theorem counted_next_differs :
    Literal.ofText .number "9007199254740992" = .ok (.integer blurred) ∧
      Literal.ofText .number "9007199254740992.0" = .ok (.number blurredDouble) ∧
      blurredDouble.real? = some blurred.real ∧
      ∃ p q, counterFilters.compileCondition (counted "9007199254740992") = .ok p ∧
        counterFilters.compileCondition (counted "9007199254740992.0") = .ok q ∧
        p.accepts ([("N", .integer ⟨2 ^ 53 + 1, by decide, by decide⟩)] : Record) = false ∧
        q.accepts ([("N", .integer ⟨2 ^ 53 + 1, by decide, by decide⟩)] : Record) = true := by
  refine ⟨ofText_blurred, ofText_blurredDouble, real?_blurredDouble, _, _, compileCondition_counted ofText_blurred,
    compileCondition_counted ofText_blurredDouble, ?_, ?_⟩
  · decide +kernel
  · decide +kernel

end Compiler

end RecordFilter
