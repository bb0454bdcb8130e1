import RecordFilter.Text.Lowercase

set_option autoImplicit false

namespace RecordFilter.Text

def nearestCased? (cs : List Char) : Option Bool := (cs.dropWhile isCaseIgnorable).head?.map isCased

theorem touchesCased_eq (cs : List Char) : touchesCased cs = (nearestCased? cs == some true) := by
  unfold touchesCased nearestCased?
  cases cs.dropWhile isCaseIgnorable with
  | nil => rfl
  | cons c cs => cases h : isCased c <;> simp [h]

theorem nearestCased?_append (cs ds : List Char) :
    nearestCased? (cs ++ ds) = (nearestCased? cs).or (nearestCased? ds) := by
  unfold nearestCased?
  rw [List.dropWhile_append]
  cases cs.dropWhile isCaseIgnorable with
  | nil => simp
  | cons c cs => simp

theorem endsWord_eq (before after : List Char) :
    endsWord before after = (nearestCased? before == some true && nearestCased? after != some true) := by
  rw [endsWord, touchesCased_eq, touchesCased_eq, bne]

/-- Lowercases a text between two others, of which the one before it is read backwards. -/
def lowercaseBetween (before after : List Char) : List Char → List Char
  | [] => []
  | c :: cs =>
    (if c = 'Σ' then [if endsWord before (cs ++ after) then 'ς' else 'σ'] else lowercaseChar c) ++
      lowercaseBetween (c :: before) after cs

theorem lowercaseFrom_append (before cs after : List Char) :
    lowercaseFrom before (cs ++ after) =
      lowercaseBetween before after cs ++ lowercaseFrom (cs.reverse ++ before) after := by
  induction cs generalizing before with
  | nil => rfl
  | cons c cs ih =>
    rw [List.cons_append, lowercaseFrom, ih, lowercaseBetween, List.append_assoc, List.reverse_cons,
      List.append_assoc, List.singleton_append]

theorem lowercaseFrom_eq (before cs : List Char) : lowercaseFrom before cs = lowercaseBetween before [] cs := by
  have h := lowercaseFrom_append before cs []
  simpa [lowercaseFrom] using h

theorem lowercaseBetween_append (before after cs ds : List Char) :
    lowercaseBetween before after (cs ++ ds) =
      lowercaseBetween before (ds ++ after) cs ++ lowercaseBetween (cs.reverse ++ before) after ds := by
  induction cs generalizing before with
  | nil => rfl
  | cons c cs ih => simp [lowercaseBetween, ih]

theorem lowercase_around (a cs b : List Char) :
    lowercase (a ++ cs ++ b) =
      lowercaseBetween [] (cs ++ b) a ++ lowercaseBetween a.reverse b cs ++
        lowercaseBetween (cs.reverse ++ a.reverse) [] b := by
  rw [lowercase, lowercaseFrom_eq, lowercaseBetween_append, lowercaseBetween_append]
  simp

/-- A sigma has one character in either form, so what stands around a text does not change how long it gets. -/
theorem length_lowercaseBetween (before after before' after' cs : List Char) :
    (lowercaseBetween before after cs).length = (lowercaseBetween before' after' cs).length := by
  induction cs generalizing before before' with
  | nil => rfl
  | cons c cs ih =>
    simp only [lowercaseBetween, List.length_append, ih (c :: before) (c :: before')]
    split <;> rfl

/-- If a text is lowercased alike in two places, every sigma in it has the same form in both. -/
theorem endsWord_of_lowercaseBetween_eq {before after before' after' cs ds : List Char}
    (h : lowercaseBetween before after (cs ++ 'Σ' :: ds) = lowercaseBetween before' after' (cs ++ 'Σ' :: ds)) :
    endsWord (cs.reverse ++ before) (ds ++ after) = endsWord (cs.reverse ++ before') (ds ++ after') := by
  rw [lowercaseBetween_append, lowercaseBetween_append] at h
  have forms := (List.append_inj h (length_lowercaseBetween _ _ _ _ cs)).2
  simp only [lowercaseBetween, if_true, List.singleton_append, List.cons.injEq] at forms
  revert forms
  cases endsWord (cs.reverse ++ before) (ds ++ after) <;> cases endsWord (cs.reverse ++ before') (ds ++ after') <;>
    simp

end RecordFilter.Text
