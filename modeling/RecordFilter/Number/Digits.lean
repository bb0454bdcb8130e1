set_option autoImplicit false

namespace RecordFilter.Number

def digitValue (c : Char) : Nat := c.toNat - 0x30

def digitChar (n : Nat) : Char := Char.ofNat (0x30 + n)

theorem isDigit_digitChar {n : Nat} (h : n < 10) : (digitChar n).isDigit = true := by
  match n with
  | 0 | 1 | 2 | 3 | 4 | 5 | 6 | 7 | 8 | 9 => decide
  | n + 10 => omega

theorem digitValue_digitChar {n : Nat} (h : n < 10) : digitValue (digitChar n) = n := by
  match n with
  | 0 | 1 | 2 | 3 | 4 | 5 | 6 | 7 | 8 | 9 => decide
  | n + 10 => omega

def ofDigits (ds : List Char) : Nat := ds.foldl (fun n c => 10 * n + digitValue c) 0

theorem ofDigits_concat (ds : List Char) (c : Char) : ofDigits (ds ++ [c]) = 10 * ofDigits ds + digitValue c := by
  simp [ofDigits]

def digits (n : Nat) : List Char :=
  if n < 10 then [digitChar n] else digits (n / 10) ++ [digitChar (n % 10)]

theorem ofDigits_digits (n : Nat) : ofDigits (digits n) = n := by
  fun_induction digits n with
  | case1 n h => simp [ofDigits, digitValue_digitChar h]
  | case2 n h ih =>
    rw [ofDigits_concat, ih, digitValue_digitChar (Nat.mod_lt n (by decide))]
    omega

theorem isDigit_of_mem_digits {n : Nat} {c : Char} (h : c ∈ digits n) : c.isDigit = true := by
  fun_induction digits n with
  | case1 n hn =>
    rw [List.mem_singleton] at h
    exact h ▸ isDigit_digitChar hn
  | case2 n _ ih =>
    rcases List.mem_append.1 h with h | h
    · exact ih h
    · rw [List.mem_singleton] at h
      exact h ▸ isDigit_digitChar (Nat.mod_lt n (by decide))

theorem digits_ne_nil (n : Nat) : digits n ≠ [] := by
  unfold digits
  split <;> simp

def padded (width n : Nat) : List Char :=
  let ds := digits n
  List.replicate (width - ds.length) '0' ++ ds

def intText (i : Int) : List Char := if i < 0 then '-' :: digits i.natAbs else digits i.natAbs

def readNat? (cs : List Char) : Option Nat :=
  if !cs.isEmpty && cs.all Char.isDigit then some (ofDigits cs) else none

theorem readNat?_digits (n : Nat) : readNat? (digits n) = some n := by
  rw [readNat?, if_pos, ofDigits_digits]
  rw [Bool.and_eq_true, List.all_eq_true]
  exact ⟨by simp [digits_ne_nil], fun c hc => isDigit_of_mem_digits hc⟩

def readUnsigned? : List Char → Option Nat
  | '+' :: ds => readNat? ds
  | ds => readNat? ds

def readInt? : List Char → Option Int
  | '-' :: ds => (readNat? ds).map fun n : Nat => -(n : Int)
  | cs => (readUnsigned? cs).map Int.ofNat

/-- No sign stands in front of the digits of a number. -/
theorem readInt?_digits (n : Nat) : readInt? (digits n) = some (n : Int) := by
  have hd : ∀ c ∈ digits n, c.isDigit = true := fun c hc => isDigit_of_mem_digits hc
  have hr := readNat?_digits n
  revert hd hr
  cases digits n with
  | nil => intro _ hr; simp [readNat?] at hr
  | cons c ds =>
    intro hd hr
    have hc := hd c List.mem_cons_self
    unfold readInt?
    split
    · rename_i h
      cases h
      exact absurd hc (by decide)
    · unfold readUnsigned?
      split
      · rename_i h
        cases h
        exact absurd hc (by decide)
      · rw [hr]
        rfl

theorem readInt?_intText (i : Int) : readInt? (intText i) = some i := by
  unfold intText
  split
  · rw [readInt?, readNat?_digits, Option.map_some]
    exact congrArg some (by omega)
  · rw [readInt?_digits]
    exact congrArg some (by omega)

end RecordFilter.Number
