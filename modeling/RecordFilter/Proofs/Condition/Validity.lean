import RecordFilter.Proofs.Condition.Meaning

set_option autoImplicit false

namespace RecordFilter

theorem Operator.dataType_of_isPattern {o : Operator} {t : DataType} (pattern : o.isPattern = true)
    (supported : o.supports t = true) : t = .text := by
  cases o with
  | contains | notContains | iContains | iNotContains | startsWith | notStartsWith | iStartsWith | iNotStartsWith
  | endsWith | notEndsWith | iEndsWith | iNotEndsWith =>
    cases t with
    | text => rfl
    | number | boolean | date | dateTime | guid => cases supported
  | _ => cases pattern

namespace Condition

variable {c : Condition} {most : Nat} {ls : List Literal}

/-- The values of a text condition are its literals as they stand. -/
theorem literals_of_text (h : c.literals most = .ok ls) (text : c.dataType = .text) : ls = c.values.map .text := by
  obtain ⟨-, -, -, read⟩ := literals_eq_ok_iff.1 h
  rw [text] at read
  have kept : List.Forall₂ (fun l s => l = Literal.text s) ls c.values :=
    read.flip.imp fun l s hl => (Except.ok.inj hl).symm
  rw [← List.forall₂_eq_eq_eq, List.forall₂_map_right_iff]
  exact kept

theorem folded_text (o : Operator) (s : String) : ∃ t, o.folded (.text s) = .text t := by
  unfold Operator.folded
  cases o.isCaseInsensitive with
  | false => exact ⟨s, rfl⟩
  | true => exact ⟨lowercase s, rfl⟩

theorem exists_compare (single : ls.length = 1) (field : FieldRef) (r : Comparison) :
    ∃ p, ((c.single (ls.map c.operator.folded)).map fun l =>
      Predicate.compare field r l c.operator.isCaseInsensitive) = .ok p := by
  obtain ⟨l, rfl⟩ := List.length_eq_one_iff.1 single
  exact ⟨_, rfl⟩

theorem exists_like (h : c.literals most = .ok ls) (pattern : c.operator.isPattern = true) (single : ls.length = 1)
    (field : FieldRef) (shape : String → LikePattern) (negated : Bool) :
    ∃ p, (do
      let l ← c.single (ls.map c.operator.folded)
      let s ← c.pattern l
      .ok (Predicate.like field (shape s) c.operator.isCaseInsensitive negated)) = .ok p := by
  obtain ⟨supported, -⟩ := literals_eq_ok_iff.1 h
  obtain ⟨l, rfl⟩ := List.length_eq_one_iff.1 single
  have texts := literals_of_text h (Operator.dataType_of_isPattern pattern supported)
  obtain ⟨s, -, rfl⟩ : ∃ s ∈ c.values, Literal.text s = l := List.mem_map.1 (texts ▸ List.mem_singleton_self l)
  obtain ⟨t, ht⟩ := folded_text c.operator s
  rw [List.map_singleton, ht]
  exact ⟨_, rfl⟩

theorem exists_body (h : c.literals most = .ok ls) (field : FieldRef) :
    ∃ p, c.body field (ls.map c.operator.folded) = .ok p := by
  have allowed := allows_length_of_literals h
  obtain ⟨sort, name, type, op, values⟩ := c
  cases op with
  | equal | notEqual | iEqual | iNotEqual | greaterThan | greaterThanOrEqual | lessThan | lessThanOrEqual =>
    exact exists_compare allowed field _
  | contains | notContains | iContains | iNotContains | startsWith | notStartsWith | iStartsWith | iNotStartsWith
  | endsWith | notEndsWith | iEndsWith | iNotEndsWith =>
    exact exists_like h rfl allowed field _ _
  | isIn | iIsIn | isNotIn | iIsNotIn | isNull | isNotNull => exact ⟨_, rfl⟩
  | between | notBetween =>
    obtain ⟨lo, hi, rfl⟩ := List.length_eq_two.1 allowed
    exact ⟨_, rfl⟩

/-- A condition whose values are read has a predicate, on whatever path. -/
theorem exists_predicate (h : c.literals most = .ok ls) (path : ResolvedPath) : ∃ p, c.predicate path ls = .ok p := by
  obtain ⟨body, hbody⟩ := exists_body h (path.target c.operator.isNullTest).2
  unfold predicate
  simp only [map_folded, hbody]
  exact ⟨_, rfl⟩

end Condition

namespace Compiler

variable (k : Compiler) {c : Condition}

structure Permits (c : Condition) : Prop where
  resolved : ∃ path, k.schema.resolve c.field = .ok path
  supported : c.operator.supports c.dataType = true
  counted : c.operator.arity.Allows k.config.maxInValues c.values.length
  filled : ∀ s ∈ c.values, Condition.isBlank s = false
  readable : ∀ s ∈ c.values, ∃ l, Literal.ofText c.dataType s = .ok l

theorem exists_compileCondition_iff : (∃ p, k.compileCondition c = .ok p) ↔ k.Permits c := by
  constructor
  · rintro ⟨p, h⟩
    obtain ⟨path, ls, hpath, hls, -⟩ := k.compileCondition_eq_ok_iff.1 h
    obtain ⟨supported, counted, filled, read⟩ := Condition.literals_eq_ok_iff.1 hls
    refine ⟨⟨path, hpath⟩, supported, counted, filled, ?_⟩
    exact Outcome.exists_mapM_ok_iff.1 ⟨ls, Outcome.mapM_eq_ok_iff.2 read⟩
  · intro h
    obtain ⟨path, hpath⟩ := h.resolved
    obtain ⟨ls, read⟩ := Outcome.exists_mapM_ok_iff.2 h.readable
    have hls : c.literals k.config.maxInValues = .ok ls :=
      Condition.literals_eq_ok_iff.2 ⟨h.supported, h.counted, h.filled, Outcome.mapM_eq_ok_iff.1 read⟩
    obtain ⟨p, built⟩ := Condition.exists_predicate hls path
    exact ⟨p, k.compileCondition_eq_ok_iff.2 ⟨path, ls, hpath, hls, built⟩⟩

/-- A condition is refused for its path or else for its values. -/
theorem compileCondition_eq_error {e : FilterError} (h : k.compileCondition c = .error e) :
    k.schema.resolve c.field = .error e ∨ c.literals k.config.maxInValues = .error e := by
  rw [compileCondition] at h
  simp only [Outcome.bind_eq_error_iff] at h
  rcases h with unresolved | ⟨path, -, refused | ⟨ls, hls, unbuilt⟩⟩
  · exact Or.inl unresolved
  · exact Or.inr refused
  · obtain ⟨p, built⟩ := Condition.exists_predicate hls path
    cases built.symm.trans unbuilt

end Compiler

end RecordFilter
