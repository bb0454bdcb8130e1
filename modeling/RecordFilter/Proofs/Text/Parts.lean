import Mathlib.Data.List.DropRight
import RecordFilter.Text.Blank
import RecordFilter.Text.Split

set_option autoImplicit false

namespace RecordFilter.Text

theorem split_eq_splitOn (mark : Char) (cs : List Char) : split mark cs = cs.splitOn mark := by
  induction cs with
  | nil => rfl
  | cons c cs ih =>
    rw [split, ih, List.splitOn_cons_eq_if_modifyHead]
    cases parts : cs.splitOn mark with
    | nil => exact absurd parts (List.splitOn_ne_nil mark cs)
    | cons part parts => simp

theorem trim_eq (cs : List Char) : trim cs = (cs.dropWhile isBlank).rdropWhile isBlank := rfl

theorem mem_of_mem_trim {c : Char} {cs : List Char} (h : c ∈ trim cs) : c ∈ cs :=
  (List.dropWhile_suffix isBlank).subset ((List.rdropWhile_prefix isBlank _).subset h)

def IsTrimmed (cs : List Char) : Prop := cs.head?.any isBlank = false ∧ cs.getLast?.any isBlank = false

theorem isTrimmed_trim (cs : List Char) : IsTrimmed (trim cs) := by
  rw [trim_eq]
  by_cases empty : (cs.dropWhile isBlank).rdropWhile isBlank = []
  · rw [empty]
    exact ⟨rfl, rfl⟩
  · have first := (List.rdropWhile_prefix isBlank _).head empty
    have last := List.rdropWhile_last_not isBlank _ empty
    rw [IsTrimmed, List.head?_eq_some_head empty, List.getLast?_eq_some_getLast empty, first]
    exact ⟨List.head_dropWhile_not isBlank _, Bool.eq_false_iff.2 last⟩

theorem trim_eq_self_iff {cs : List Char} : trim cs = cs ↔ IsTrimmed cs := by
  constructor
  · intro h
    exact h ▸ isTrimmed_trim cs
  · rintro ⟨first, last⟩
    have start : cs.dropWhile isBlank = cs := by
      cases cs with
      | nil => rfl
      | cons c cs => exact List.dropWhile_cons_of_neg (Bool.eq_false_iff.1 first)
    rw [trim_eq, start, List.rdropWhile_eq_self_iff]
    intro filled
    rw [List.getLast?_eq_some_getLast filled] at last
    exact Bool.eq_false_iff.1 last

theorem trim_trim (cs : List Char) : trim (trim cs) = trim cs := trim_eq_self_iff.2 (isTrimmed_trim cs)

def isMark (c : Char) : Bool := 0x2B ≤ c.toNat && c.toNat ≤ 0x7A

theorem isBlank_of_isMark {c : Char} (h : isMark c = true) : isBlank c = false := by
  simp [isMark] at h
  simp [isBlank]
  omega

/-- Blanks inside a text do no harm to its ends. -/
theorem isTrimmed_append {front back : List Char} (filled : front ≠ [] ∧ back ≠ [])
    (marks : ∀ c ∈ front ++ back, isMark c = true) (between : List Char) : IsTrimmed (front ++ between ++ back) := by
  obtain ⟨c, front, rfl⟩ := List.exists_cons_of_ne_nil filled.1
  have last := List.getLast_mem filled.2
  refine ⟨isBlank_of_isMark (marks c (by simp)), ?_⟩
  rw [List.getLast?_append_of_ne_nil _ filled.2, List.getLast?_eq_some_getLast filled.2]
  exact isBlank_of_isMark (marks _ (List.mem_append_right _ last))

theorem isTrimmed_of_isMark {cs : List Char} (marks : ∀ c ∈ cs, isMark c = true) : IsTrimmed cs := by
  by_cases empty : cs = []
  · rw [empty]
    exact ⟨rfl, rfl⟩
  · rw [IsTrimmed, List.head?_eq_some_head empty, List.getLast?_eq_some_getLast empty]
    exact ⟨isBlank_of_isMark (marks _ (List.head_mem empty)), isBlank_of_isMark (marks _ (List.getLast_mem empty))⟩

end RecordFilter.Text
