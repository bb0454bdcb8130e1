import Mathlib
import RecordFilter.Proofs.Pattern.Search
import RecordFilter.Proofs.Text.FinalSigma

set_option autoImplicit false

namespace RecordFilter

namespace Place

def Around : Place → List Char → List Char → Prop
  | anywhere, _, _ => True
  | atStart, before, _ => before = []
  | atEnd, _, after => after = []

theorem finds_iff (place : Place) (l t : List Char) :
    place.Finds l t ↔ ∃ before after, place.Around before after ∧ before ++ l ++ after = t := by
  cases place with
  | anywhere => simp [Finds, Around, List.IsInfix]
  | atStart => simp [Finds, Around, List.IsPrefix]
  | atEnd => simp [Finds, Around, List.IsSuffix]

/-- Whether a capital sigma in a text that is looked for has one form, wherever the text is found, when the nearest
characters on its sides that count, in the text, are cased or not like this. -/
def settles : Place → Option Bool → Option Bool → Bool
  | anywhere, before, after => before == some false || after == some true || (before.isSome && after.isSome)
  | atStart, before, after => before != some true || after.isSome
  | atEnd, before, after => before.isSome || after == some true

/-- Whether every capital sigma in a text that is looked for has one form, behind the characters in `before`. -/
def keepsCase (place : Place) (before : List Char) : List Char → Bool
  | [] => true
  | c :: cs =>
    (c != 'Σ' || place.settles (Text.nearestCased? before) (Text.nearestCased? cs)) &&
      place.keepsCase (c :: before) cs

theorem keepsCase_of_not_mem (place : Place) {before l : List Char} (h : 'Σ' ∉ l) :
    place.keepsCase before l = true := by
  induction l generalizing before with
  | nil => rfl
  | cons c l ih =>
    rw [List.mem_cons, not_or] at h
    have plain : c ≠ 'Σ' := Ne.symm h.1
    simp [keepsCase, plain, ih h.2]

theorem endsWord_of_settles {place : Place} {a b u w : List Char} (around : place.Around a b)
    (h : place.settles (Text.nearestCased? u) (Text.nearestCased? w) = true) :
    Text.endsWord (u ++ a.reverse) (w ++ b) = Text.endsWord u w := by
  simp only [Text.endsWord_eq, Text.nearestCased?_append]
  revert h
  cases place with
  | anywhere =>
    rcases Text.nearestCased? u with _ | _ | _ <;> rcases Text.nearestCased? w with _ | _ | _ <;> simp [settles]
  | atStart =>
    cases around
    rcases Text.nearestCased? u with _ | _ | _ <;> rcases Text.nearestCased? w with _ | _ | _ <;>
      simp [settles, Text.nearestCased?]
  | atEnd =>
    cases around
    rcases Text.nearestCased? u with _ | _ | _ <;> rcases Text.nearestCased? w with _ | _ | _ <;>
      simp [settles, Text.nearestCased?]

theorem lowercaseBetween_of_keepsCase {place : Place} {a b u l : List Char} (around : place.Around a b)
    (h : place.keepsCase u l = true) :
    Text.lowercaseBetween (u ++ a.reverse) b l = Text.lowercaseBetween u [] l := by
  induction l generalizing u with
  | nil => rfl
  | cons c l ih =>
    rw [keepsCase, Bool.and_eq_true, Bool.or_eq_true, bne_iff_ne] at h
    have later : Text.lowercaseBetween (c :: (u ++ a.reverse)) b l = Text.lowercaseBetween (c :: u) [] l := ih h.2
    rw [Text.lowercaseBetween, Text.lowercaseBetween, later, List.append_nil]
    by_cases sigma : c = 'Σ'
    · have settled := h.1.resolve_left (not_not_intro sigma)
      rw [endsWord_of_settles around settled]
    · rw [if_neg sigma, if_neg sigma]

theorem finds_lowercase {place : Place} {l t : List Char} (h : place.keepsCase [] l = true) (found : place.Finds l t) :
    place.Finds (Text.lowercase l) (Text.lowercase t) := by
  obtain ⟨a, b, around, rfl⟩ := (place.finds_iff l t).1 found
  have kept : Text.lowercaseBetween a.reverse b l = Text.lowercase l := by
    rw [Text.lowercase, Text.lowercaseFrom_eq]
    exact lowercaseBetween_of_keepsCase around h
  rw [Text.lowercase_around, kept, finds_iff]
  refine ⟨_, _, ?_, rfl⟩
  cases place with
  | anywhere => trivial
  | atStart =>
    cases around
    rfl
  | atEnd =>
    cases around
    rfl

theorem exists_unsettled {place : Place} {u l : List Char} (h : place.keepsCase u l = false) :
    ∃ v w, l = v ++ 'Σ' :: w ∧ place.settles (Text.nearestCased? (v.reverse ++ u)) (Text.nearestCased? w) = false := by
  induction l generalizing u with
  | nil => cases h
  | cons c l ih =>
    rw [keepsCase, Bool.and_eq_false_iff, Bool.or_eq_false_iff, bne_eq_false_iff_eq] at h
    rcases h with ⟨rfl, here⟩ | later
    · exact ⟨[], l, rfl, here⟩
    · obtain ⟨v, w, rfl, there⟩ := ih later
      exact ⟨c :: v, w, rfl, by simpa using there⟩

def IsLowerLetter (x : Char) : Prop := x ≠ 'Σ' ∧ Text.lowercaseChar x = [x] ∧ Text.nearestCased? [x] = some true

theorem exists_isLowerLetter (y z : Option Char) : ∃ x, IsLowerLetter x ∧ y ≠ some x ∧ z ≠ some x := by
  have a : IsLowerLetter 'a' := by unfold IsLowerLetter; decide +kernel
  have b : IsLowerLetter 'b' := by unfold IsLowerLetter; decide +kernel
  have c : IsLowerLetter 'c' := by unfold IsLowerLetter; decide +kernel
  by_cases first : y = some 'a' ∨ z = some 'a'
  · by_cases second : y = some 'b' ∨ z = some 'b'
    · refine ⟨'c', c, ?_⟩
      rcases first with rfl | rfl <;> rcases second with h | h <;> simp_all
    · exact ⟨'b', b, not_or.1 second⟩
  · exact ⟨'a', a, not_or.1 first⟩

theorem endsWord_of_not_settles {place : Place} {u w : List Char} {x : Char} (letter : IsLowerLetter x)
    (h : place.settles (Text.nearestCased? u) (Text.nearestCased? w) = false) :
    place.Around [x] [] ∧ Text.endsWord (u ++ [x]) w ≠ Text.endsWord u w ∨
      place.Around [] [x] ∧ Text.endsWord u (w ++ [x]) ≠ Text.endsWord u w := by
  simp only [Text.endsWord_eq, Text.nearestCased?_append, letter.2.2]
  revert h
  cases place <;> rcases Text.nearestCased? u with _ | _ | _ <;> rcases Text.nearestCased? w with _ | _ | _ <;>
    simp [settles, Around]

theorem lowercase_cons_letter {x : Char} (letter : IsLowerLetter x) (l : List Char) :
    Text.lowercase (x :: l) = x :: Text.lowercaseBetween [x] [] l := by
  rw [Text.lowercase, Text.lowercaseFrom, if_neg letter.1, letter.2.1, Text.lowercaseFrom_eq, List.singleton_append]

theorem lowercase_concat_letter {x : Char} (letter : IsLowerLetter x) (l : List Char) :
    Text.lowercase (l ++ [x]) = Text.lowercaseBetween [] [x] l ++ [x] := by
  rw [Text.lowercase, Text.lowercaseFrom_append, Text.lowercaseFrom, if_neg letter.1, letter.2.1, Text.lowercaseFrom,
    List.append_nil]

theorem not_infix_cons {l l' : List Char} {x : Char} (same : l.length = l'.length) (apart : l ≠ l')
    (first : l.head? ≠ some x) : ¬ l <:+: x :: l' := by
  rw [List.infix_cons_iff]
  rintro (begins | inside)
  · cases l with
    | nil =>
      apply apart
      exact (List.length_eq_zero_iff.1 same.symm).symm
    | cons y l =>
      apply first
      rw [(List.cons_prefix_cons.1 begins).1]
      rfl
  · exact apart (inside.eq_of_length same)

theorem not_infix_concat {l l' : List Char} {x : Char} (same : l.length = l'.length) (apart : l ≠ l')
    (last : l.getLast? ≠ some x) : ¬ l <:+: l' ++ [x] := by
  rw [← List.reverse_infix, List.reverse_append]
  apply not_infix_cons
  · simpa using same
  · simpa using apart
  · simpa using last

theorem infix_of_finds {place : Place} {l t : List Char} (h : place.Finds l t) : l <:+: t := by
  cases place with
  | anywhere => exact h
  | atStart => exact List.IsPrefix.isInfix h
  | atEnd => exact List.IsSuffix.isInfix h

theorem exists_found_unlike {place : Place} {l : List Char} (h : place.keepsCase [] l = false) :
    ∃ t, place.Finds l t ∧ ¬ place.Finds (Text.lowercase l) (Text.lowercase t) := by
  obtain ⟨v, w, rfl, unsettled⟩ := exists_unsettled h
  rw [List.append_nil] at unsettled
  have alone := Text.lowercaseFrom_eq [] (v ++ 'Σ' :: w)
  obtain ⟨x, letter, first, last⟩ := exists_isLowerLetter (Text.lowercase (v ++ 'Σ' :: w)).head?
    (Text.lowercase (v ++ 'Σ' :: w)).getLast?
  have same (before after : List Char) : (Text.lowercase (v ++ 'Σ' :: w)).length =
      (Text.lowercaseBetween before after (v ++ 'Σ' :: w)).length := by
    rw [Text.lowercase, alone]
    apply Text.length_lowercaseBetween
  rcases endsWord_of_not_settles letter unsettled with ⟨around, changed⟩ | ⟨around, changed⟩
  · refine ⟨x :: (v ++ 'Σ' :: w), (place.finds_iff _ _).2 ⟨[x], [], around, by simp⟩, fun found => ?_⟩
    rw [lowercase_cons_letter letter] at found
    refine not_infix_cons (same [x] []) ?_ first (infix_of_finds found)
    intro alike
    rw [Text.lowercase, alone] at alike
    apply changed
    simpa using (Text.endsWord_of_lowercaseBetween_eq alike).symm
  · refine ⟨v ++ 'Σ' :: w ++ [x], (place.finds_iff _ _).2 ⟨[], [x], around, rfl⟩, fun found => ?_⟩
    rw [lowercase_concat_letter letter] at found
    refine not_infix_concat (same [] [x]) ?_ last (infix_of_finds found)
    intro alike
    rw [Text.lowercase, alone] at alike
    apply changed
    simpa using (Text.endsWord_of_lowercaseBetween_eq alike).symm

theorem keepsCase_iff (place : Place) (l : List Char) :
    place.keepsCase [] l = true ↔ ∀ t, place.Finds l t → place.Finds (Text.lowercase l) (Text.lowercase t) := by
  constructor
  · intro h t found
    exact finds_lowercase h found
  · intro h
    by_contra open'
    obtain ⟨t, found, missed⟩ := exists_found_unlike (Bool.not_eq_true _ ▸ open')
    exact missed (h t found)

end Place

end RecordFilter
