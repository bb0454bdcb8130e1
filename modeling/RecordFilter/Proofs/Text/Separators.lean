import RecordFilter.Proofs.Text.AsciiCase
import RecordFilter.Proofs.Text.FinalSigma
import RecordFilter.Proofs.Text.Parts

set_option autoImplicit false

namespace RecordFilter.Text

def isSeparator (c : Char) : Bool := c == '.' || isBlank c

/-- Ranges that hold all separators and no character, outside ASCII, that takes part in a case mapping. -/
def caselessRanges : List (Nat × Nat) :=
  [(0x09, 0x2E), (0x85, 0x85), (0xA0, 0xA0), (0x1680, 0x1680), (0x2000, 0x205F), (0x3000, 0x3000)]

theorem exists_caselessRange {c : Char} (h : isSeparator c = true) :
    ∃ s ∈ caselessRanges, s.1 ≤ c.toNat ∧ c.toNat ≤ s.2 := by
  have place : (9 ≤ c.toNat ∧ c.toNat ≤ 0x2E) ∨ c.toNat = 0x85 ∨ c.toNat = 0xA0 ∨ c.toNat = 0x1680 ∨
      (0x2000 ≤ c.toNat ∧ c.toNat ≤ 0x205F) ∨ c.toNat = 0x3000 := by
    rw [isSeparator, Bool.or_eq_true, beq_iff_eq] at h
    rcases h with rfl | blank
    · left
      decide
    · simp [isBlank] at blank
      omega
  simp only [caselessRanges, List.exists_mem_cons_iff]
  omega

theorem lowercaseRuns_apart : ∀ r ∈ lowercaseRuns, ∀ s ∈ caselessRanges,
    (r.last < s.1 ∨ s.2 < r.first) ∧ (r.last + r.shift < s.1 ∨ (s.2 : Int) < r.first + r.shift) := by
  decide +kernel

theorem not_covers_of_isSeparator {c : Char} (h : isSeparator c = true) {r : CaseRun} (hr : r ∈ lowercaseRuns) :
    ¬ r.Covers c.toNat := by
  obtain ⟨s, hs, place⟩ := exists_caselessRange h
  have apart := (lowercaseRuns_apart r hr s hs).1
  intro covered
  have inside := And.intro covered.1 covered.2.1
  omega

theorem not_isSeparator_of_covers {n : Nat} {r : CaseRun} (hr : r ∈ lowercaseRuns) (covered : r.Covers n) :
    isSeparator (Char.ofNat (n + r.shift).toNat) = false := by
  rw [← Bool.not_eq_true]
  intro separator
  obtain ⟨s, hs, place⟩ := exists_caselessRange separator
  have apart := (lowercaseRuns_apart r hr s hs).2
  have first := covered.1
  have last := covered.2.1
  have starts : ∀ s ∈ caselessRanges, 9 ≤ s.1 := by decide
  have start := starts s hs
  rw [Char.toNat_ofNat] at place
  split at place <;> omega

def lowercaseAt (before : List Char) (c : Char) (after : List Char) : List Char :=
  if c = 'Σ' then [if endsWord before after then 'ς' else 'σ'] else lowercaseChar c

theorem lowercaseFrom_cons (before : List Char) (c : Char) (after : List Char) :
    lowercaseFrom before (c :: after) = lowercaseAt before c after ++ lowercaseFrom (c :: before) after := rfl

theorem not_isSeparator_of_isAlpha {c : Char} (h : c.isAlpha = true) : isSeparator c = false := by
  rw [isSeparator, isBlank_of_isAlpha h, Bool.or_false, beq_eq_false_iff_ne]
  rintro rfl
  cases h

theorem lowercaseChar_of_isSeparator {c : Char} (h : isSeparator c = true) : lowercaseChar c = [c] := by
  have unmapped : lowercaseRuns.find? (fun r => decide (r.Covers c.toNat)) = none := by
    rw [List.find?_eq_none]
    intro r hr
    rw [decide_eq_true_eq]
    exact not_covers_of_isSeparator h hr
  have undotted : c ≠ 'İ' := by
    rintro rfl
    cases h
  unfold lowercaseChar
  rw [if_neg undotted, unmapped]
  split
  · rcases toLower_eq_or_isAlpha c with same | ⟨letter, -⟩
    · rw [same]
    · rw [not_isSeparator_of_isAlpha letter] at h
      cases h
  · rfl

theorem eq_of_mem_lowercaseChar {c x : Char} (h : x ∈ lowercaseChar c) (separator : isSeparator x = true) : x = c := by
  unfold lowercaseChar at h
  split at h
  · rw [List.mem_singleton] at h
    rcases toLower_eq_or_isAlpha c with same | ⟨-, letter⟩
    · rw [h, same]
    · rw [h, not_isSeparator_of_isAlpha letter] at separator
      cases separator
  · split at h
    · rcases List.mem_pair.1 h with rfl | rfl <;> cases separator
    · split at h
      · rename_i r found
        rw [List.mem_singleton] at h
        have covered : r.Covers c.toNat := by simpa using List.find?_some found
        rw [h, not_isSeparator_of_covers (List.mem_of_find?_eq_some found) covered] at separator
        cases separator
      · exact List.mem_singleton.1 h

/-- Only a separator becomes one, and it stays what it is. -/
theorem eq_of_mem_lowercaseAt {before after : List Char} {c x : Char} (h : x ∈ lowercaseAt before c after)
    (separator : isSeparator x = true ∨ isSeparator c = true) : x = c := by
  unfold lowercaseAt at h
  split at h
  · rename_i sigma
    subst sigma
    rw [List.mem_singleton] at h
    split at h <;> subst h <;> rcases separator with h | h <;> cases h
  · rcases separator with separator | separator
    · exact eq_of_mem_lowercaseChar h separator
    · rw [lowercaseChar_of_isSeparator separator] at h
      exact List.mem_singleton.1 h

theorem isBlank_eq_of_mem_lowercaseAt {before after : List Char} {c x : Char} (h : x ∈ lowercaseAt before c after) :
    isBlank x = isBlank c := by
  by_cases blank : isBlank x = true ∨ isBlank c = true
  · rw [eq_of_mem_lowercaseAt h (blank.imp (by simp [isSeparator, ·]) (by simp [isSeparator, ·]))]
  · rw [not_or, Bool.not_eq_true, Bool.not_eq_true] at blank
    rw [blank.1, blank.2]

theorem lowercaseChar_ne_nil (c : Char) : lowercaseChar c ≠ [] := by
  unfold lowercaseChar
  split
  · exact List.cons_ne_nil _ _
  · split
    · exact List.cons_ne_nil _ _
    · split <;> exact List.cons_ne_nil _ _

theorem lowercaseAt_ne_nil (before : List Char) (c : Char) (after : List Char) : lowercaseAt before c after ≠ [] := by
  unfold lowercaseAt
  split
  · exact List.cons_ne_nil _ _
  · exact lowercaseChar_ne_nil c

theorem lowercase_eq_nil_iff {cs : List Char} : lowercase cs = [] ↔ cs = [] := by
  cases cs with
  | nil => exact Iff.rfl
  | cons c cs => simp [lowercase, lowercaseFrom_cons, lowercaseAt_ne_nil]

theorem dot_mem_lowercaseFrom_iff (before cs : List Char) : '.' ∈ lowercaseFrom before cs ↔ '.' ∈ cs := by
  induction cs generalizing before with
  | nil => exact Iff.rfl
  | cons c cs ih =>
    rw [lowercaseFrom_cons, List.mem_append, List.mem_cons, ih]
    refine or_congr_left ⟨fun h => eq_of_mem_lowercaseAt h (Or.inl rfl), ?_⟩
    rintro rfl
    exact List.mem_singleton_self _

theorem dot_mem_lowercase_iff {cs : List Char} : '.' ∈ lowercase cs ↔ '.' ∈ cs := dot_mem_lowercaseFrom_iff [] cs

theorem any_isBlank_head?_lowercase (cs : List Char) : (lowercase cs).head?.any isBlank = cs.head?.any isBlank := by
  cases cs with
  | nil => rfl
  | cons c cs =>
    have filled := lowercaseAt_ne_nil [] c cs
    rw [lowercase, lowercaseFrom_cons, List.head?_append_of_ne_nil _ filled, List.head?_eq_some_head filled]
    exact isBlank_eq_of_mem_lowercaseAt (List.head_mem filled)

theorem any_isBlank_getLast?_lowercase (cs : List Char) :
    (lowercase cs).getLast?.any isBlank = cs.getLast?.any isBlank := by
  rcases List.eq_nil_or_concat' cs with rfl | ⟨start, c, rfl⟩
  · rfl
  · have filled := lowercaseAt_ne_nil (start.reverse ++ []) c []
    have last : lowercaseFrom (start.reverse ++ []) [c] = lowercaseAt (start.reverse ++ []) c [] := List.append_nil _
    rw [lowercase, lowercaseFrom_append, last, List.getLast?_append_of_ne_nil _ filled, List.getLast?_concat,
      List.getLast?_eq_some_getLast filled]
    exact isBlank_eq_of_mem_lowercaseAt (List.getLast_mem filled)

theorem isTrimmed_lowercase_iff {cs : List Char} : IsTrimmed (lowercase cs) ↔ IsTrimmed cs := by
  rw [IsTrimmed, IsTrimmed, any_isBlank_head?_lowercase, any_isBlank_getLast?_lowercase]

end RecordFilter.Text
