import Mathlib.Data.List.Infix
import RecordFilter.LikePattern

set_option autoImplicit false

/-!
# What patterns match

An expression leads from one place in a text to another, part by part, and the table of ends tells from which places
it leads anywhere. What a pattern matches is said of its characters, without expressions. The two agree.
-/

namespace RecordFilter

namespace Regex

/-- The table tells of every end of a text whether it has the property. -/
inductive Tabulates (p : List Char → Prop) : List Char → List Bool → Prop
  | last {b : Bool} (first : b = true ↔ p []) : Tabulates p [] [b]
  | more {c : Char} {text : List Char} {b : Bool} {bs : List Bool} (first : b = true ↔ p (c :: text))
      (later : Tabulates p text bs) : Tabulates p (c :: text) (b :: bs)

section Tables

variable {text : List Char} {p q : List Char → Prop} {bs : List Bool}

theorem Tabulates.congr (h : Tabulates p text bs) (same : ∀ s, p s ↔ q s) : Tabulates q text bs := by
  induction h with
  | last first => exact .last (first.trans (same _))
  | more first later ih => exact .more (first.trans (same _)) ih

theorem Tabulates.headD_iff (h : Tabulates p text bs) : bs.headD false = true ↔ p text := by
  cases h with
  | last first => exact first
  | more first later => exact first

theorem Tabulates.any_iff (h : Tabulates p text bs) : bs.any id = true ↔ ∃ s, s <:+ text ∧ p s := by
  induction h with
  | last first => simp [first]
  | more first later ih =>
    rw [List.any_cons, Bool.or_eq_true, ih, id, first]
    simp only [List.suffix_cons_iff, or_and_right, exists_or, exists_eq_left]

theorem tabulates_true (h : ∀ s, p s) (text : List Char) :
    Tabulates p text (List.replicate (text.length + 1) true) := by
  induction text with
  | nil => exact .last (by simp [h])
  | cons c text ih => exact .more (by simp [h]) ih

theorem Tabulates.none (h : Tabulates p text bs) (lacking : ∀ s, s <:+ text → ¬ q s) :
    Tabulates q text (bs.map fun _ => false) := by
  induction h with
  | last first => exact .last (by simp [lacking])
  | more first later ih =>
    refine .more (by simp [lacking]) (ih fun s hs => ?_)
    exact lacking s (hs.trans (List.suffix_cons _ _))

theorem Tabulates.onlyFirst (h : Tabulates p text bs) : Tabulates (fun s => s = text ∧ p s) text (onlyFirst bs) := by
  cases h with
  | last first => exact .last (by simpa using first)
  | more first later =>
    refine .more (by simpa using first) (later.none ?_)
    rintro s hs ⟨rfl, -⟩
    have shorter := hs.length_le
    rw [List.length_cons] at shorter
    omega

theorem Tabulates.onlyLast (h : Tabulates p text bs) : Tabulates (fun s => s = [] ∧ p s) text (onlyLast bs) := by
  induction h with
  | last first => exact .last (by simpa using first)
  | more first later ih =>
    cases later with
    | last | more => exact .more (by simp) ih

theorem Tabulates.afterOne (h : Tabulates p text bs) (test : Char → Bool) :
    Tabulates (fun s => ∃ c t, s = c :: t ∧ test c = true ∧ p t) text (afterOne test text bs) := by
  induction h with
  | last first => exact .last (by simp)
  | more first later ih =>
    have inside := later.headD_iff
    cases later with
    | last | more =>
      refine .more ?_ ih
      simp at inside
      simp [inside]

theorem Tabulates.afterAnyRun (h : Tabulates p text bs) :
    Tabulates (fun s => ∃ t, t <:+ s ∧ p t) text (afterAnyRun bs) := by
  induction h with
  | last first => exact .last (by simp [Regex.afterAnyRun, first])
  | more first later ih =>
    refine .more ?_ ih
    rw [Bool.or_eq_true, ih.headD_iff, first]
    simp only [List.suffix_cons_iff, or_and_right, exists_or, exists_eq_left]

end Tables

/-- The expression matches what stands between two places in the text. A place is given by what stands behind it. -/
inductive Leads (text : List Char) : Regex → List Char → List Char → Prop
  | done (s : List Char) : Leads text [] s s
  | textStart {r : Regex} {t : List Char} (rest : Leads text r text t) : Leads text (.textStart :: r) text t
  | textEnd {r : Regex} {t : List Char} (rest : Leads text r [] t) : Leads text (.textEnd :: r) [] t
  | anyOne {r : Regex} {s t : List Char} (c : Char) (rest : Leads text r s t) : Leads text (.anyOne :: r) (c :: s) t
  | anyRun {r : Regex} {s t : List Char} (run : List Char) (rest : Leads text r s t) :
      Leads text (.anyRun :: r) (run ++ s) t
  | exactly {r : Regex} {s t : List Char} (c : Char) (rest : Leads text r s t) :
      Leads text (.exactly c :: r) (c :: s) t

theorem tabulates_matchesAt (text : List Char) (r : Regex) :
    Tabulates (fun s => ∃ t, Leads text r s t) text (matchesAt text r) := by
  induction r with
  | nil => exact tabulates_true (fun s => ⟨s, .done s⟩) text
  | cons part r ih =>
    cases part with
    | textStart =>
      refine ih.onlyFirst.congr fun s => ⟨?_, ?_⟩
      · rintro ⟨rfl, t, rest⟩
        exact ⟨t, .textStart rest⟩
      · rintro ⟨t, ⟨⟩⟩
        exact ⟨rfl, t, ‹_›⟩
    | textEnd =>
      refine ih.onlyLast.congr fun s => ⟨?_, ?_⟩
      · rintro ⟨rfl, t, rest⟩
        exact ⟨t, .textEnd rest⟩
      · rintro ⟨t, ⟨⟩⟩
        exact ⟨rfl, t, ‹_›⟩
    | anyOne =>
      refine (ih.afterOne _).congr fun s => ⟨?_, ?_⟩
      · rintro ⟨c, s, rfl, -, t, rest⟩
        exact ⟨t, .anyOne c rest⟩
      · rintro ⟨t, ⟨⟩⟩
        exact ⟨_, _, rfl, rfl, t, ‹_›⟩
    | anyRun =>
      refine ih.afterAnyRun.congr fun s => ⟨?_, ?_⟩
      · rintro ⟨s, ⟨run, rfl⟩, t, rest⟩
        exact ⟨t, .anyRun run rest⟩
      · rintro ⟨t, ⟨⟩⟩
        exact ⟨_, List.suffix_append _ _, t, ‹_›⟩
    | exactly d =>
      refine (ih.afterOne _).congr fun s => ⟨?_, ?_⟩
      · rintro ⟨c, s, rfl, same, t, rest⟩
        exact ⟨t, eq_of_beq same ▸ .exactly c rest⟩
      · rintro ⟨t, ⟨⟩⟩
        exact ⟨d, _, rfl, beq_self_eq_true d, t, ‹_›⟩

theorem isFound_iff (r : Regex) (text : List Char) :
    r.isFound text = true ↔ ∃ s t, s <:+ text ∧ Leads text r s t := by
  rw [isFound, (tabulates_matchesAt text r).any_iff]
  simp only [exists_and_left]

end Regex

namespace LikePattern

def IsPlain (c : Char) : Prop := c ≠ '\\' ∧ c ≠ '%' ∧ c ≠ '_'

/-- The texts that a pattern matches, by the characters of the pattern. -/
inductive Describes : List Char → List Char → Prop
  | nothing : Describes [] []
  | anyRun {p t : List Char} (run : List Char) (rest : Describes p t) : Describes ('%' :: p) (run ++ t)
  | anyOne {p t : List Char} (c : Char) (rest : Describes p t) : Describes ('_' :: p) (c :: t)
  | escaped {p t : List Char} (c : Char) (rest : Describes p t) : Describes ('\\' :: c :: p) (c :: t)
  | unfinished : Describes ['\\'] []
  | itself {p t : List Char} {c : Char} (plain : IsPlain c) (rest : Describes p t) : Describes (c :: p) (c :: t)

theorem describes_of_leads {text p s t : List Char} (h : Regex.Leads text (parts p ++ [.textEnd]) s t) :
    Describes p s := by
  fun_induction parts p generalizing s with
  | case1 =>
    cases h
    exact .nothing
  | case2 =>
    cases h
    exact .unfinished
  | case3 c p ih =>
    cases h with | exactly _ rest => exact .escaped c (ih rest)
  | case4 p ih =>
    cases h with | anyRun run rest => exact .anyRun run (ih rest)
  | case5 p ih =>
    cases h with | anyOne c rest => exact .anyOne c (ih rest)
  | case6 c p last escapes percent underscore ih =>
    cases h with
    | exactly _ rest =>
      refine .itself ⟨?_, percent, underscore⟩ (ih rest)
      rintro rfl
      cases p with
      | nil => exact last rfl rfl
      | cons d p => exact escapes d p rfl rfl

theorem parts_of_isPlain {c : Char} (plain : IsPlain c) (p : List Char) : parts (c :: p) = .exactly c :: parts p := by
  obtain ⟨backslash, percent, underscore⟩ := plain
  rw [parts]
  · intro h
    exact absurd h backslash
  · intro d q h
    exact absurd h backslash
  · exact percent
  · exact underscore

theorem leads_of_describes {p s : List Char} (text : List Char) (h : Describes p s) :
    Regex.Leads text (parts p ++ [.textEnd]) s [] := by
  induction h with
  | nothing | unfinished => exact .textEnd (.done [])
  | anyRun run rest ih => exact .anyRun run ih
  | anyOne c rest ih => exact .anyOne c ih
  | escaped c rest ih => exact .exactly c ih
  | itself plain rest ih =>
    rw [parts_of_isPlain plain]
    exact .exactly _ ih

/-- The anchors make the expression match the text as a whole. -/
theorem isFound_anchored_iff (p s : List Char) :
    Regex.isFound (.textStart :: parts p ++ [.textEnd]) s = true ↔ Describes p s := by
  rw [Regex.isFound_iff]
  constructor
  · rintro ⟨start, stop, -, ⟨⟩⟩
    exact describes_of_leads ‹_›
  · intro h
    exact ⟨s, [], List.suffix_rfl, .textStart (leads_of_describes s h)⟩

/-- A pattern matches the texts that it describes and no others. -/
theorem isMatch_iff_describes (p : LikePattern) (s : String) :
    p.isMatch s = true ↔ Describes p.text.toList s.toList :=
  isFound_anchored_iff p.text.toList s.toList

example : (⟨"a_%\\%\\"⟩ : LikePattern).isMatch "a\n.*%" = true := by decide +kernel

example : (⟨"a\\_"⟩ : LikePattern).isMatch "ab" = false := by decide +kernel

end LikePattern

end RecordFilter
