import RecordFilter.Number.Shortest
import RecordFilter.Proofs.Number.Reading
import RecordFilter.Proofs.Text.Parts

set_option autoImplicit false

namespace RecordFilter

namespace Number

theorem length_digits_le {n k : Nat} (positive : 0 < k) (small : n < 10 ^ k) : (digits n).length ≤ k := by
  fun_induction digits n generalizing k with
  | case1 n h => exact positive
  | case2 n h ih =>
    obtain ⟨k, rfl⟩ := Nat.exists_eq_add_of_le' positive
    rw [Nat.pow_succ] at small
    have several : 0 < k := by
      by_contra none
      obtain rfl : k = 0 := by omega
      omega
    have shorter := ih several (by omega)
    rw [List.length_append, List.length_singleton]
    omega

variable {width n : Nat}

theorem length_padded (positive : 0 < width) (small : n < 10 ^ width) : (padded width n).length = width := by
  have short := length_digits_le positive small
  rw [padded, List.length_append, List.length_replicate]
  omega

theorem isDigit_of_mem_padded {c : Char} (h : c ∈ padded width n) : c.isDigit = true := by
  rcases List.mem_append.1 h with zero | digit
  · rw [List.eq_of_mem_replicate zero]
    rfl
  · exact isDigit_of_mem_digits digit

theorem padded_ne_nil (width n : Nat) : padded width n ≠ [] :=
  List.append_ne_nil_of_right_ne_nil _ (digits_ne_nil n)

theorem ofDigits_padded (width n : Nat) : ofDigits (padded width n) = n := by
  rw [padded]
  induction width - (digits n).length with
  | zero => exact ofDigits_digits n
  | succ zeros ih =>
    have zero : digitValue '0' = 0 := rfl
    rw [List.replicate_succ, List.cons_append, ofDigits_cons, ih, zero, Nat.zero_mul, Nat.zero_add]

end Number

theorem Text.isMark_of_isDigit {c : Char} (h : c.isDigit = true) : isMark c = true := by
  have place := Number.toNat_of_isDigit h
  simp [isMark]
  omega

open Text (isMark isMark_of_isDigit)

namespace Number

theorem isMark_of_mem_digits {n : Nat} : ∀ c ∈ digits n, isMark c = true := fun _ h =>
  isMark_of_isDigit (isDigit_of_mem_digits h)

theorem isMark_of_mem_padded {width n : Nat} : ∀ c ∈ padded width n, isMark c = true := fun _ h =>
  isMark_of_isDigit (isDigit_of_mem_padded h)

theorem isMark_of_mem_intText {i : Int} : ∀ c ∈ intText i, isMark c = true := by
  unfold intText
  split
  · exact List.forall_mem_cons.2 ⟨rfl, isMark_of_mem_digits⟩
  · exact isMark_of_mem_digits

end Number

theorem Magnitude.isMark_of_mem_text {m : Magnitude} : ∀ c ∈ m.text, isMark c = true := by
  unfold text
  split
  · exact List.forall_mem_singleton.2 rfl
  · unfold positional
    split
    · refine List.forall_mem_append.2 ⟨Number.isMark_of_mem_digits, fun c zero => ?_⟩
      rw [List.eq_of_mem_replicate zero]
      rfl
    · exact List.forall_mem_append.2
        ⟨Number.isMark_of_mem_digits, List.forall_mem_cons.2 ⟨rfl, Number.isMark_of_mem_padded⟩⟩

theorem Double.isMark_of_mem_text {x : Double} : ∀ c ∈ x.text, isMark c = true := by
  have signed {cs : List Char} (h : ∀ c ∈ cs, isMark c = true) (negative : Bool) :
      ∀ c ∈ withSign negative cs, isMark c = true := by
    cases negative with
    | false => exact h
    | true => exact List.forall_mem_cons.2 ⟨rfl, h⟩
  cases x with
  | finite negative size => exact signed Magnitude.isMark_of_mem_text negative
  | infinite negative => exact signed (List.all_eq_true.1 rfl) negative
  | nan => exact List.all_eq_true.1 rfl

end RecordFilter
