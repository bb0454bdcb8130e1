import RecordFilter.Path
import RecordFilter.Proofs.Text.Separators

set_option autoImplicit false

namespace RecordFilter

structure IsPathName (name : String) : Prop where
  filled : name.toList ≠ []
  undotted : '.' ∉ name.toList
  trimmed : Text.IsTrimmed name.toList

namespace IsPathName

theorem of_lowercase_eq {s t : String} (h : lowercase s = lowercase t) (name : IsPathName t) : IsPathName s := by
  have same : Text.lowercase s.toList = Text.lowercase t.toList := String.ofList_injective h
  refine ⟨?_, ?_, ?_⟩
  · rw [ne_eq, ← Text.lowercase_eq_nil_iff, same, Text.lowercase_eq_nil_iff]
    exact name.filled
  · rw [← Text.dot_mem_lowercase_iff, same, Text.dot_mem_lowercase_iff]
    exact name.undotted
  · rw [← Text.isTrimmed_lowercase_iff, same, Text.isTrimmed_lowercase_iff]
    exact name.trimmed

end IsPathName

theorem isPathName_of_mem_pathNames {path name : String} (h : name ∈ pathNames path) : IsPathName name := by
  obtain ⟨part, kept, rfl⟩ := List.mem_map.1 h
  obtain ⟨mem, filled⟩ := List.mem_filter.1 kept
  obtain ⟨whole, hwhole, rfl⟩ := List.mem_map.1 mem
  refine ⟨?_, ?_, ?_⟩ <;> rw [String.toList_ofList]
  · simpa using filled
  · exact fun dot => Text.not_mem_of_mem_split hwhole (Text.mem_of_mem_trim dot)
  · exact Text.isTrimmed_trim whole

theorem pathNames_intercalate {names : List String} (h : ∀ name ∈ names, IsPathName name) :
    pathNames (String.intercalate "." names) = names := by
  cases names with
  | nil => rfl
  | cons first rest =>
    have undotted : ∀ part ∈ (first :: rest).map String.toList, '.' ∉ part := by
      intro part hpart
      obtain ⟨name, mem, rfl⟩ := List.mem_map.1 hpart
      exact (h name mem).undotted
    have parts : Text.split '.' (String.intercalate "." (first :: rest)).toList = (first :: rest).map String.toList := by
      rw [Text.split_eq_splitOn, String.toList_intercalate]
      exact List.splitOn_intercalate '.' undotted (by simp)
    have trimmed : ((first :: rest).map String.toList).map Text.trim = (first :: rest).map String.toList := by
      rw [List.map_map]
      exact List.map_congr_left fun name mem => Text.trim_eq_self_iff.2 (h name mem).trimmed
    have filled : ((first :: rest).map String.toList).filter (fun part => !part.isEmpty) =
        (first :: rest).map String.toList := by
      rw [List.filter_eq_self]
      intro part hpart
      obtain ⟨name, mem, rfl⟩ := List.mem_map.1 hpart
      simpa using (h name mem).filled
    rw [pathNames, parts, trimmed, filled, List.map_map]
    simp

end RecordFilter
