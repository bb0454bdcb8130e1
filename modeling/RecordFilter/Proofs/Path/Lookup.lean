import RecordFilter.Proofs.Text.AsciiCase
import RecordFilter.Schema

set_option autoImplicit false

namespace RecordFilter.Fields

variable {fields : Fields} {name : String} {field : String × FieldType}

/-- Of the fields with a name like the first one that a search finds, that one comes first. -/
theorem findIdx?_declared {search : String → Bool} {i : Nat} (h : fields.findIdx? (fun f => search f.1) = some i)
    (found : fields[i]? = some field) : fields.findIdx? (fun f => f.1 == field.1) = some i := by
  obtain ⟨inside, hit, earlier⟩ := List.findIdx?_eq_some_iff_getElem.1 h
  obtain ⟨_, same⟩ := List.getElem?_eq_some_iff.1 found
  refine List.findIdx?_eq_some_iff_getElem.2 ⟨inside, by simp [same], fun j hj like => earlier j hj ?_⟩
  rw [beq_iff_eq.1 like, ← same]
  exact hit

theorem indexOf?_eq_some {i : Nat} (h : fields.indexOf? name = some i) :
    ∃ search : String → Bool, fields.findIdx? (fun f => search f.1) = some i ∧
      ∀ s, search s = true → lowercase s = lowercase name := by
  rcases Option.or_eq_some_iff.1 h with exact | ⟨-, other⟩
  · exact ⟨(· == name), exact, fun s same => congrArg lowercase (beq_iff_eq.1 same)⟩
  · rcases Option.or_eq_some_iff.1 other with ascii | ⟨-, lower⟩
    · refine ⟨fun s => Text.equalIgnoringAsciiCase s.toList name.toList, ascii, fun s same => ?_⟩
      exact congrArg String.ofList (Text.lowercase_eq_of_equalIgnoringAsciiCase same)
    · exact ⟨fun s => equalLowercased s name, lower, fun s same => beq_iff_eq.1 same⟩

theorem lookup?_eq_some (h : fields.lookup? name = some field) :
    ∃ (search : String → Bool) (i : Nat), fields.findIdx? (fun f => search f.1) = some i ∧
      (∀ s, search s = true → lowercase s = lowercase name) ∧ fields[i]? = some field := by
  obtain ⟨i, index, found⟩ := Option.bind_eq_some_iff.1 h
  obtain ⟨search, first, alike⟩ := indexOf?_eq_some index
  exact ⟨search, i, first, alike, found⟩

/-- Under its declared name a field is found again, whichever way it was found. -/
theorem lookup?_declared (h : fields.lookup? name = some field) : fields.lookup? field.1 = some field := by
  obtain ⟨search, i, first, -, found⟩ := lookup?_eq_some h
  rw [lookup?, indexOf?, findIdx?_declared first found]
  exact found

theorem mem_of_lookup? (h : fields.lookup? name = some field) : field ∈ fields := by
  obtain ⟨search, i, -, -, found⟩ := lookup?_eq_some h
  exact List.mem_of_getElem? found

theorem lowercase_of_lookup? (h : fields.lookup? name = some field) : lowercase field.1 = lowercase name := by
  obtain ⟨search, i, first, alike, found⟩ := lookup?_eq_some h
  obtain ⟨inside, hit, -⟩ := List.findIdx?_eq_some_iff_getElem.1 first
  obtain ⟨_, same⟩ := List.getElem?_eq_some_iff.1 found
  rw [same] at hit
  exact alike field.1 hit

theorem exists_lookup? (mem : field ∈ fields) (alike : lowercase field.1 = lowercase name) :
    ∃ other, fields.lookup? name = some other := by
  have last : (fields.findIdx? fun f => equalLowercased f.1 name).isSome = true := by
    rw [List.findIdx?_isSome]
    exact List.any_eq_true.2 ⟨field, mem, beq_iff_eq.2 alike⟩
  have placed : (fields.indexOf? name).isSome = true := by
    rw [indexOf?, Option.isSome_or, Option.isSome_or, last, Bool.or_true, Bool.or_true]
  obtain ⟨i, index⟩ := Option.isSome_iff_exists.1 placed
  obtain ⟨search, first, -⟩ := indexOf?_eq_some index
  obtain ⟨inside, -⟩ := List.findIdx?_eq_some_iff_getElem.1 first
  refine ⟨fields[i], ?_⟩
  rw [lookup?, index]
  exact List.getElem?_eq_getElem inside

/-- Among fields whose names differ in more than case, a name finds the one field with its lowercase name. -/
theorem lookup?_eq_some_iff (distinct : (fields.map fun f => lowercase f.1).Nodup) :
    fields.lookup? name = some field ↔ field ∈ fields ∧ lowercase field.1 = lowercase name := by
  constructor
  · intro h
    exact ⟨mem_of_lookup? h, lowercase_of_lookup? h⟩
  · rintro ⟨mem, alike⟩
    obtain ⟨other, found⟩ := exists_lookup? mem alike
    have same := List.inj_on_of_nodup_map distinct (mem_of_lookup? found) mem
      ((lowercase_of_lookup? found).trans alike.symm)
    rw [found, same]

theorem lookup?_of_lowercase_eq (distinct : (fields.map fun f => lowercase f.1).Nodup) {other : String}
    (alike : lowercase name = lowercase other) (h : fields.lookup? name = some field) :
    fields.lookup? other = some field := by
  obtain ⟨mem, own⟩ := (lookup?_eq_some_iff distinct).1 h
  exact (lookup?_eq_some_iff distinct).2 ⟨mem, own.trans alike⟩

end RecordFilter.Fields
