import Mathlib
import RecordFilter.Text.Blank
import RecordFilter.Text.Lowercase

set_option autoImplicit false

namespace RecordFilter.Text

theorem toNat_of_isAlpha {c : Char} (h : c.isAlpha = true) :
    65 ≤ c.toNat ∧ c.toNat ≤ 90 ∨ 97 ≤ c.toNat ∧ c.toNat ≤ 122 := by
  simp only [Char.isAlpha, Char.isUpper, Char.isLower, Bool.or_eq_true, Bool.and_eq_true, decide_eq_true_eq] at h
  exact h

theorem toLower_eq_or_isAlpha (c : Char) : c.toLower = c ∨ c.isAlpha = true ∧ c.toLower.isAlpha = true := by
  by_cases letter : c.isAlpha = true
  · exact Or.inr ⟨letter, by rwa [Char.isAlpha_toLower_eq_isAlpha]⟩
  · left
    apply Char.toLower_eq_of_not_isUpper
    intro upper
    simp [Char.isAlpha, upper] at letter

theorem isBlank_of_isAlpha {c : Char} (h : c.isAlpha = true) : isBlank c = false := by
  have place := toNat_of_isAlpha h
  simp [isBlank]
  omega

theorem isCased_of_isAlpha {c : Char} (h : c.isAlpha = true) : isCased c = true := by
  apply List.any_eq_true.2
  rcases toNat_of_isAlpha h with upper | lower
  · exact ⟨(0x41, 0x5A), by decide +kernel, by simpa using upper⟩
  · exact ⟨(0x61, 0x7A), by decide +kernel, by simpa using lower⟩

theorem isCaseIgnorable_of_isAlpha {c : Char} (h : c.isAlpha = true) : isCaseIgnorable c = false := by
  have apart : ∀ r ∈ caseIgnorableRanges, r.2 < 65 ∨ 122 < r.1 ∨ 90 < r.1 ∧ r.2 < 97 := by decide +kernel
  have place := toNat_of_isAlpha h
  apply List.any_eq_false.2
  intro r hr
  have outside := apart r hr
  simp
  omega

theorem isBlank_toLower (c : Char) : isBlank c.toLower = isBlank c := by
  rcases toLower_eq_or_isAlpha c with same | ⟨letter, letter'⟩
  · rw [same]
  · rw [isBlank_of_isAlpha letter, isBlank_of_isAlpha letter']

theorem isCased_toLower (c : Char) : isCased c.toLower = isCased c := by
  rcases toLower_eq_or_isAlpha c with same | ⟨letter, letter'⟩
  · rw [same]
  · rw [isCased_of_isAlpha letter, isCased_of_isAlpha letter']

theorem isCaseIgnorable_toLower (c : Char) : isCaseIgnorable c.toLower = isCaseIgnorable c := by
  rcases toLower_eq_or_isAlpha c with same | ⟨letter, letter'⟩
  · rw [same]
  · rw [isCaseIgnorable_of_isAlpha letter, isCaseIgnorable_of_isAlpha letter']

theorem lowercaseChar_of_isAlpha {c : Char} (h : c.isAlpha = true) : lowercaseChar c = [c.toLower] := by
  have place := toNat_of_isAlpha h
  apply if_pos
  omega

theorem lowercaseChar_toLower (c : Char) : lowercaseChar c.toLower = lowercaseChar c := by
  rcases toLower_eq_or_isAlpha c with same | ⟨letter, letter'⟩
  · rw [same]
  · rw [lowercaseChar_of_isAlpha letter, lowercaseChar_of_isAlpha letter', Char.toLower_toLower_eq_toLower]

theorem toLower_eq_sigma_iff (c : Char) : c.toLower = 'Σ' ↔ c = 'Σ' := by
  rcases toLower_eq_or_isAlpha c with same | ⟨letter, letter'⟩
  · rw [same]
  · constructor
    · intro sigma
      rw [sigma] at letter'
      cases letter'
    · rintro rfl
      cases letter

theorem asciiLowercase_cons (c : Char) (cs : List Char) : asciiLowercase (c :: cs) = c.toLower :: asciiLowercase cs := rfl

theorem touchesCased_asciiLowercase (cs : List Char) : touchesCased (asciiLowercase cs) = touchesCased cs := by
  have ignored : isCaseIgnorable ∘ Char.toLower = isCaseIgnorable := funext isCaseIgnorable_toLower
  rw [touchesCased, touchesCased, asciiLowercase, List.dropWhile_map, ignored]
  cases cs.dropWhile isCaseIgnorable with
  | nil => rfl
  | cons c rest => exact isCased_toLower c

theorem endsWord_asciiLowercase (before after : List Char) :
    endsWord (asciiLowercase before) (asciiLowercase after) = endsWord before after := by
  simp only [endsWord, touchesCased_asciiLowercase]

theorem lowercaseFrom_asciiLowercase (before cs : List Char) :
    lowercaseFrom (asciiLowercase before) (asciiLowercase cs) = lowercaseFrom before cs := by
  induction cs generalizing before with
  | nil => rfl
  | cons c cs ih =>
    have here := endsWord_asciiLowercase before cs
    have later : lowercaseFrom (c.toLower :: asciiLowercase before) (asciiLowercase cs) =
        lowercaseFrom (c :: before) cs := ih (c :: before)
    rw [asciiLowercase_cons]
    simp only [lowercaseFrom, toLower_eq_sigma_iff, lowercaseChar_toLower, here, later]

theorem lowercase_asciiLowercase (cs : List Char) : lowercase (asciiLowercase cs) = lowercase cs :=
  lowercaseFrom_asciiLowercase [] cs

theorem lowercase_eq_of_equalIgnoringAsciiCase {cs ds : List Char} (h : equalIgnoringAsciiCase cs ds = true) :
    lowercase cs = lowercase ds := by
  have same : asciiLowercase cs = asciiLowercase ds := by simpa [equalIgnoringAsciiCase] using h
  rw [← lowercase_asciiLowercase cs, same, lowercase_asciiLowercase]

theorem all_isBlank_asciiLowercase (cs : List Char) : (asciiLowercase cs).all isBlank = cs.all isBlank := by
  rw [asciiLowercase, List.all_map]
  exact congrArg cs.all (funext isBlank_toLower)

end RecordFilter.Text
