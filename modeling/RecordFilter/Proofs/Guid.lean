import RecordFilter.Guid
import RecordFilter.Proofs.Text.Parts

set_option autoImplicit false

namespace RecordFilter

namespace Text

theorem mapM_hexValue? (ds : List (Fin 16)) : (ds.map hexDigit).mapM hexValue? = some ds := by
  induction ds with
  | nil => rfl
  | cons d ds ih => simp [hexValue?_hexDigit, ih]

theorem isMark_hexDigit (d : Fin 16) : isMark (hexDigit d) = true ∧ hexDigit d ≠ '-' ∧ (hexDigit d).toLower ≠ 'u' := by
  revert d
  decide

end Text

namespace Guid

open Text (isMark hexDigit)

variable (g : Guid)

def groups : List (List Char) :=
  let ds := g.digits.map hexDigit
  [ds.take 8, (ds.drop 8).take 4, (ds.drop 12).take 4, (ds.drop 16).take 4, ds.drop 20]

theorem text_eq : g.text = ['-'].intercalate g.groups := by
  simp [text, groups, List.intercalate, List.intersperse]

theorem map_length_groups : g.groups.map List.length = [8, 4, 4, 4, 12] := by
  simp [groups, g.length_eq]

theorem flatten_groups : g.groups.flatten = g.digits.map hexDigit := by
  have split (k : Nat) (cs : List Char) : (cs.drop k).take 4 ++ cs.drop (k + 4) = cs.drop k := by
    rw [← List.drop_drop, List.take_append_drop]
  simp only [groups, List.flatten_cons, List.flatten_nil, List.append_nil, split 16, split 12, split 8]
  exact List.take_append_drop 8 _

theorem mem_digits_of_mem_groups {part : List Char} {c : Char} (listed : part ∈ g.groups) (h : c ∈ part) :
    ∃ d, c = hexDigit d := by
  have digit : c ∈ g.digits.map hexDigit := g.flatten_groups ▸ List.mem_flatten_of_mem listed h
  obtain ⟨d, -, rfl⟩ := List.mem_map.1 digit
  exact ⟨d, rfl⟩

theorem split_text : Text.split '-' g.text = g.groups := by
  rw [Text.split_eq_splitOn, text_eq]
  refine List.splitOn_intercalate '-' ?_ (List.cons_ne_nil _ _)
  intro part listed hyphen
  obtain ⟨d, same⟩ := g.mem_digits_of_mem_groups listed hyphen
  exact (Text.isMark_hexDigit d).2.1 same.symm

theorem isMark_of_mem_text : ∀ c ∈ g.text, isMark c = true := by
  have digit : ∀ c ∈ g.digits.map hexDigit, isMark c = true :=
    List.forall_mem_map.2 fun d _ => (Text.isMark_hexDigit d).1
  have taken (k n : Nat) : ∀ c ∈ ((g.digits.map hexDigit).drop k).take n, isMark c = true := fun c h =>
    digit c (List.mem_of_mem_drop (List.mem_of_mem_take h))
  have hyphen : isMark '-' = true := rfl
  simp only [text, List.forall_mem_append, List.forall_mem_cons]
  exact ⟨⟨⟨⟨fun c h => digit c (List.mem_of_mem_take h), hyphen, taken 8 4⟩, hyphen, taken 12 4⟩, hyphen, taken 16 4⟩,
    hyphen, fun c h => digit c (List.mem_of_mem_drop h)⟩

theorem readHyphenated?_text : readHyphenated? g.text = some g := by
  rw [readHyphenated?, g.split_text, if_pos g.map_length_groups, g.flatten_groups, readPlain?, Text.mapM_hexValue?]
  exact of?_eq_some_iff.2 rfl

theorem length_text : g.text.length = 36 := by
  simp [text, g.length_eq]

/-- The first character is a digit, so the text does not start with the scheme. -/
theorem take_scheme_ne : (g.text.take scheme.length).map Char.toLower ≠ scheme := by
  have long := g.length_eq
  intro same
  have first := congrArg List.head? same
  match listed : g.digits, long with
  | d :: ds, _ =>
    simp only [text, listed] at first
    exact (Text.isMark_hexDigit d).2.2 (Option.some.inj first)

theorem read?_text : read? g.text = some g := by
  rw [read?, if_neg (by rw [length_text]; decide), if_neg (by rw [length_text]; decide), if_neg g.take_scheme_ne]
  exact g.readHyphenated?_text

end Guid

end RecordFilter
