import RecordFilter.Proofs.Path.Resolution

set_option autoImplicit false

namespace RecordFilter

mutual

/-- Whether in every record of a type the names of the fields differ, also after they are lowercased. -/
def FieldType.isUnambiguous : FieldType → Bool
  | .scalar _ => true
  | .record fields => decide (fields.map fun f => lowercase f.1).Nodup && Fields.allUnambiguous fields
  | .list element => element.isUnambiguous

def Fields.allUnambiguous : List (String × FieldType) → Bool
  | [] => true
  | (_, type) :: fields => type.isUnambiguous && Fields.allUnambiguous fields

end

theorem FieldType.isUnambiguous_peel {t : FieldType} (h : t.isUnambiguous = true) : t.peel.2.isUnambiguous = true := by
  match t with
  | list element => exact isUnambiguous_peel (t := element) h
  | scalar _ | record _ => exact h

theorem Fields.allUnambiguous_eq_all (fields : Fields) :
    allUnambiguous fields = fields.all fun f => f.2.isUnambiguous := by
  induction fields with
  | nil => rfl
  | cons field fields ih =>
    rw [allUnambiguous, ih]
    rfl

theorem FieldType.isUnambiguous_record {fields : Fields} (h : (record fields).isUnambiguous = true) :
    (fields.map fun f => lowercase f.1).Nodup ∧ ∀ f ∈ fields, f.2.isUnambiguous = true := by
  rw [isUnambiguous, Bool.and_eq_true, decide_eq_true_eq, Fields.allUnambiguous_eq_all, List.all_eq_true] at h
  exact h

theorem Follows.respelled {fields : Fields} {names others : List String} {p : ResolvedPath} (h : Follows fields names p)
    (distinct : (FieldType.record fields).isUnambiguous = true)
    (alike : List.Forall₂ (fun s t => lowercase s = lowercase t) names others) : Follows fields others p := by
  induction h generalizing others with
  | leaf found scalar =>
    obtain ⟨apart, -⟩ := FieldType.isUnambiguous_record distinct
    obtain ⟨other, rest, same, nothing, rfl⟩ := List.forall₂_cons_left_iff.1 alike
    cases nothing
    exact .leaf (Fields.lookup?_of_lowercase_eq apart same found) scalar
  | inner found record further ih =>
    obtain ⟨apart, below⟩ := FieldType.isUnambiguous_record distinct
    obtain ⟨other, rest, same, later, rfl⟩ := List.forall₂_cons_left_iff.1 alike
    have within := FieldType.isUnambiguous_peel (below _ (Fields.mem_of_lookup? found))
    rw [record] at within
    exact .inner (Fields.lookup?_of_lowercase_eq apart same found) record (ih within later)

def pathParts (path : String) : List (List Char) :=
  ((path.toList.splitOn '.').map fun part => (part.dropWhile Text.isBlank).rdropWhile Text.isBlank).filter (· ≠ [])

/-- The two paths have the same parts but for the case of ASCII letters. -/
def SpellAlike (s t : String) : Prop :=
  (pathParts s).map (List.map Char.toLower) = (pathParts t).map (List.map Char.toLower)

theorem pathNames_eq (path : String) : pathNames path = (pathParts path).map String.ofList := by
  have filled : ∀ part : List Char, (!part.isEmpty) = decide (part ≠ []) := by
    intro part
    cases part <;> rfl
  simp only [pathNames, pathParts, Text.split_eq_splitOn, filled]
  rfl

theorem lowercase_ofList_eq {cs ds : List Char} (h : cs.map Char.toLower = ds.map Char.toLower) :
    lowercase (String.ofList cs) = lowercase (String.ofList ds) := by
  have same : Text.asciiLowercase cs = Text.asciiLowercase ds := h
  have lower := Text.lowercase_eq_of_equalIgnoringAsciiCase (beq_iff_eq.2 same)
  rw [lowercase, lowercase, String.toList_ofList, String.toList_ofList, lower]

theorem SpellAlike.symm {s t : String} (h : SpellAlike s t) : SpellAlike t s := Eq.symm h

theorem SpellAlike.length_eq {s t : String} (h : SpellAlike s t) : (pathNames s).length = (pathNames t).length := by
  have lengths := congrArg List.length h
  simpa [pathNames_eq] using lengths

theorem SpellAlike.lowercase_eq {s t : String} (h : SpellAlike s t) :
    List.Forall₂ (fun a b => lowercase a = lowercase b) (pathNames s) (pathNames t) := by
  have parts : List.Forall₂ (· = ·) ((pathParts s).map (List.map Char.toLower))
      ((pathParts t).map (List.map Char.toLower)) := by
    rw [List.forall₂_eq_eq_eq]
    exact h
  rw [List.forall₂_map_left_iff, List.forall₂_map_right_iff] at parts
  rw [pathNames_eq, pathNames_eq, List.forall₂_map_left_iff, List.forall₂_map_right_iff]
  exact parts.imp fun _ _ same => lowercase_ofList_eq same

namespace Schema

variable {schema : Schema} {s t : String}

theorem resolve_respelled (distinct : (FieldType.record schema.fields).isUnambiguous = true) (h : SpellAlike s t)
    {p : ResolvedPath} (resolved : schema.resolve s = .ok p) : schema.resolve t = .ok p := by
  obtain ⟨short, follows⟩ := resolve_eq_ok_iff.1 resolved
  exact resolve_eq_ok_iff.2 ⟨h.length_eq ▸ short, follows.respelled distinct h.lowercase_eq⟩

/-- On a schema without names that differ in case alone, two paths that are spelled alike have the same outcome: they
resolve to the same path, or each is refused as it stands. -/
theorem resolve_spelledAlike (distinct : (FieldType.record schema.fields).isUnambiguous = true) (h : SpellAlike s t) :
    (∃ p, schema.resolve s = .ok p ∧ schema.resolve t = .ok p) ∨
      schema.resolve s = .error (.invalidField s) ∧ schema.resolve t = .error (.invalidField t) := by
  cases first : schema.resolve s with
  | ok p => exact Or.inl ⟨p, rfl, resolve_respelled distinct h first⟩
  | error e =>
    cases second : schema.resolve t with
    | ok p =>
      rw [resolve_respelled distinct h.symm second] at first
      cases first
    | error e' =>
      right
      rw [resolve_eq_error first, resolve_eq_error second]
      exact ⟨rfl, rfl⟩

def tanks : Schema :=
  ⟨"Depot", [("Tanks", .list (.record [("Ölstand", .scalar .number), ("Name", .scalar .text)])), ("Name", .scalar .text)],
    none⟩

theorem tanks_resolve_spelledAlike :
    (FieldType.record tanks.fields).isUnambiguous = true ∧ SpellAlike "TANKS..ölStand" " tanks . ölstand." ∧
      tanks.resolve " tanks . ölstand." = .ok ⟨[⟨"Tanks", 1⟩, ⟨"Ölstand", 0⟩], .number⟩ := by
  have distinct : (FieldType.record tanks.fields).isUnambiguous = true := by decide +kernel
  have alike : SpellAlike "TANKS..ölStand" " tanks . ölstand." := by
    rw [SpellAlike]
    decide +kernel
  have resolved : tanks.resolve "TANKS..ölStand" = .ok ⟨[⟨"Tanks", 1⟩, ⟨"Ölstand", 0⟩], .number⟩ := by decide +kernel
  refine ⟨distinct, alike, ?_⟩
  rcases resolve_spelledAlike distinct alike with ⟨p, first, second⟩ | ⟨refused, -⟩
  · rw [second, ← first, resolved]
  · rw [resolved] at refused
    cases refused

end Schema

end RecordFilter
