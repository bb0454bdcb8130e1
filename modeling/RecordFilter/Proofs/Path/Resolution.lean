import RecordFilter.Proofs.Outcome
import RecordFilter.Proofs.Path.Lookup
import RecordFilter.Proofs.Path.Names

set_option autoImplicit false

namespace RecordFilter

inductive Follows : Fields → List String → ResolvedPath → Prop
  | leaf {fields : Fields} {name declared : String} {type : FieldType} {leaf : DataType}
      (found : fields.lookup? name = some (declared, type)) (scalar : type.peel.2 = .scalar leaf) :
      Follows fields [name] ⟨[⟨declared, type.peel.1⟩], leaf⟩
  | inner {fields inner : Fields} {name declared : String} {type : FieldType} {rest : List String} {p : ResolvedPath}
      (found : fields.lookup? name = some (declared, type)) (record : type.peel.2 = .record inner)
      (further : Follows inner rest p) :
      Follows fields (name :: rest) ⟨⟨declared, type.peel.1⟩ :: p.segments, p.leaf⟩

namespace Follows

variable {fields : Fields} {names : List String} {p : ResolvedPath}

theorem names_ne_nil (h : Follows fields names p) : names ≠ [] := by
  cases h <;> exact List.cons_ne_nil _ _

theorem follow?_eq (h : Follows fields names p) : fields.follow? names = some p := by
  induction h with
  | leaf found scalar => simp only [Fields.follow?, found, scalar]
  | @inner fields inner name declared type rest p found record further ih =>
    obtain ⟨next, others, rfl⟩ := List.exists_cons_of_ne_nil further.names_ne_nil
    rw [Fields.follow?, found]
    simp only [record, ih, Option.map_some]

theorem of_follow?_eq (h : fields.follow? names = some p) : Follows fields names p := by
  induction names generalizing fields p with
  | nil => cases h
  | cons name rest ih =>
    rw [Fields.follow?] at h
    split at h
    · cases h
    · rename_i declared type found
      dsimp only at h
      split at h
      · rename_i leaf scalar
        cases h
        exact .leaf found scalar
      · rename_i inner record
        obtain ⟨q, followed, rfl⟩ := Option.map_eq_some_iff.1 h
        exact .inner found record (ih followed)
      · cases h

theorem declared (h : Follows fields names p) : Follows fields p.names p := by
  induction h with
  | leaf found scalar => exact .leaf (Fields.lookup?_declared found) scalar
  | inner found record _ ih => exact .inner (Fields.lookup?_declared found) record ih

theorem length_names (h : Follows fields names p) : p.names.length = names.length := by
  induction h with
  | leaf found scalar => rfl
  | inner found record _ ih => exact congrArg (· + 1) ih

theorem isPathName (h : Follows fields names p) (written : ∀ name ∈ names, IsPathName name) :
    ∀ name ∈ p.names, IsPathName name := by
  induction h with
  | leaf found scalar =>
    have own := IsPathName.of_lowercase_eq (Fields.lowercase_of_lookup? found) (written _ List.mem_cons_self)
    exact List.forall_mem_singleton.2 own
  | inner found record _ ih =>
    have own := IsPathName.of_lowercase_eq (Fields.lowercase_of_lookup? found) (written _ List.mem_cons_self)
    exact List.forall_mem_cons.2 ⟨own, ih fun name mem => written name (List.mem_cons_of_mem _ mem)⟩

end Follows

namespace Schema

variable {schema : Schema} {path : String} {p : ResolvedPath}

theorem resolve_eq_ok_iff :
    schema.resolve path = .ok p ↔
      (pathNames path).length ≤ maxPathLength ∧ Follows schema.fields (pathNames path) p := by
  rw [resolve, Outcome.ite_error_eq_ok_iff, Nat.not_lt]
  refine and_congr_right fun _ => ⟨fun h => ?_, fun h => ?_⟩
  · split at h
    · rename_i q found
      cases h
      exact .of_follow?_eq found
    · cases h
  · rw [h.follow?_eq]

theorem resolve_eq_error {e : FilterError} (h : schema.resolve path = .error e) : e = .invalidField path := by
  rcases Outcome.ite_error_eq_error_iff.1 h with ⟨-, own⟩ | ⟨-, unfollowed⟩
  · exact own.symm
  · split at unfollowed <;> cases unfollowed
    rfl

theorem resolve_canonical (h : schema.resolve path = .ok p) : schema.resolve p.canonical = .ok p := by
  obtain ⟨short, follows⟩ := resolve_eq_ok_iff.1 h
  have names : pathNames p.canonical = p.names :=
    pathNames_intercalate (follows.isPathName fun name mem => isPathName_of_mem_pathNames mem)
  refine resolve_eq_ok_iff.2 ⟨?_, ?_⟩ <;> rw [names]
  · rwa [follows.length_names]
  · exact follows.declared

end Schema

end RecordFilter
