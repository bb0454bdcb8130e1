import Mathlib.Data.List.TakeWhile
import Mathlib.Tactic.Ring
import RecordFilter.Number.Decimal
import RecordFilter.Proofs.Number.Rounding

set_option autoImplicit false

namespace RecordFilter

namespace Number

theorem toNat_of_isDigit {c : Char} (h : c.isDigit = true) : 48 ≤ c.toNat ∧ c.toNat ≤ 57 := by
  simp only [Char.isDigit, Bool.and_eq_true, decide_eq_true_eq] at h
  exact h

theorem digitValue_pos {c : Char} (h : c.isDigit = true) (nonzero : c ≠ '0') : 0 < digitValue c := by
  have place := toNat_of_isDigit h
  have apart : c.toNat ≠ 48 := by
    intro same
    apply nonzero
    exact Char.toNat_inj.1 same
  unfold digitValue
  omega

theorem foldl_digits (ds : List Char) (n : Nat) :
    ds.foldl (fun n c => 10 * n + digitValue c) n = n * 10 ^ ds.length + ofDigits ds := by
  induction ds generalizing n with
  | nil => simp [ofDigits]
  | cons c ds ih =>
    rw [ofDigits, List.foldl_cons, List.foldl_cons, ih, ih (10 * 0 + _), List.length_cons, Nat.pow_succ]
    ring

theorem ofDigits_cons (c : Char) (ds : List Char) : ofDigits (c :: ds) = digitValue c * 10 ^ ds.length + ofDigits ds := by
  rw [ofDigits, List.foldl_cons, foldl_digits]
  simp

theorem ofDigits_dropZeros (ds : List Char) : ofDigits (ds.dropWhile (· == '0')) = ofDigits ds := by
  induction ds with
  | nil => rfl
  | cons c ds ih =>
    by_cases zero : c = '0'
    · subst zero
      rw [List.dropWhile_cons_of_pos rfl, ih, ofDigits_cons]
      simp [digitValue]
    · rw [List.dropWhile_cons_of_neg (by simpa using zero)]

/-- Without zeros in front a number has no more digits than its size allows. -/
theorem length_dropZeros_le {ds : List Char} (h : ∀ c ∈ ds, c.isDigit = true) {k : Nat} (small : ofDigits ds < 10 ^ k) :
    (ds.dropWhile (· == '0')).length ≤ k := by
  have kept : ∀ c ∈ ds.dropWhile (· == '0'), c.isDigit = true := fun c hc => h c ((List.dropWhile_sublist _).subset hc)
  have first := List.head?_dropWhile_not (· == '0') ds
  rw [← ofDigits_dropZeros] at small
  cases same : ds.dropWhile (· == '0') with
  | nil => simp
  | cons c rest =>
    rw [same] at kept small first
    have leading : 0 < digitValue c := digitValue_pos (kept c List.mem_cons_self) (by simpa using first)
    have size : 10 ^ rest.length < 10 ^ k := by
      calc 10 ^ rest.length ≤ digitValue c * 10 ^ rest.length := Nat.le_mul_of_pos_left _ leading
        _ ≤ ofDigits (c :: rest) := by rw [ofDigits_cons]; omega
        _ < 10 ^ k := small
    have shorter := (Nat.pow_lt_pow_iff_right (by decide)).1 size
    rw [List.length_cons]
    omega

theorem toLower_of_isDigit {c : Char} (h : c.isDigit = true) : c.toLower = c := by
  have place := toNat_of_isDigit h
  apply dif_neg
  rintro ⟨upper, -⟩
  have above : 65 ≤ c.toNat := upper
  omega

theorem readNat?_eq_some {ds : List Char} {n : Nat} (h : readNat? ds = some n) :
    ds ≠ [] ∧ (∀ c ∈ ds, c.isDigit = true) ∧ ofDigits ds = n := by
  unfold readNat? at h
  split at h
  · rename_i digits
    rw [Bool.and_eq_true, List.all_eq_true] at digits
    exact ⟨by simpa using digits.1, digits.2, Option.some.inj h⟩
  · cases h

end Number

open Number

theorem Decimal.readUnsigned?_digits (negative : Bool) {ds : List Char} (nonempty : ds ≠ [])
    (h : ∀ c ∈ ds, c.isDigit = true) : Decimal.readUnsigned? negative ds = some ⟨negative, ds, 0⟩ := by
  have taken : ds.takeWhile Char.isDigit = ds := List.takeWhile_eq_self_iff.2 h
  have dropped : ds.dropWhile Char.isDigit = [] := List.dropWhile_eq_nil_iff.2 h
  simp [readUnsigned?, taken, dropped, nonempty, readExponent?]

theorem Decimal.toDouble_digits (negative : Bool) {ds : List Char} (h : ∀ c ∈ ds, c.isDigit = true)
    (small : ofDigits ds ≤ 2 ^ 127) :
    ∃ m, Decimal.toDouble ⟨negative, ds, 0⟩ = .finite negative m ∧
      m.units = Magnitude.roundNat (ofDigits ds * Double.one) := by
  have short := length_dropZeros_le (k := 39) h (Nat.lt_of_le_of_lt small (by decide))
  unfold toDouble
  dsimp only
  split
  · rename_i nothing
    rw [Bool.or_eq_true, List.isEmpty_iff, decide_eq_true_eq] at nothing
    have empty := nothing.resolve_right (by omega)
    have zero : ofDigits ds = 0 := by rw [← ofDigits_dropZeros, empty, ofDigits, List.foldl_nil]
    refine ⟨.zero, rfl, ?_⟩
    rw [zero, Nat.zero_mul]
    rfl
  · rw [if_neg (by omega), ofDigits_dropZeros]
    obtain ⟨m, nearest, units⟩ := Magnitude.exists_nearest?_one (Double.log2_units_le small)
    refine ⟨m, ?_, units⟩
    have exactly : ofDigits ds * Nat.pow 10 (Int.toNat 0) * Double.one = ofDigits ds * Double.one := by
      rw [Int.toNat_zero]
      exact congrArg (· * Double.one) (Nat.mul_one _)
    rw [exactly]
    change Double.ofUnits negative _ 1 = _
    rw [Double.ofUnits, nearest]

namespace Double

theorem readUnsigned?_digits (negative : Bool) {ds : List Char} {n : Nat} (read : readNat? ds = some n)
    (small : n ≤ 2 ^ 127) :
    ∃ m, readUnsigned? negative ds = some (.finite negative m) ∧ m.units = Magnitude.roundNat (n * one) := by
  obtain ⟨nonempty, digits, rfl⟩ := readNat?_eq_some read
  obtain ⟨m, rounded, units⟩ := Decimal.toDouble_digits negative digits small
  have unnamed (c : Char) (name : List Char) (letter : c.isDigit = false) : ds.map Char.toLower ≠ c :: name := by
    cases ds with
    | nil => simp
    | cons d ds =>
      rw [List.forall_mem_cons] at digits
      rw [List.map_cons, toLower_of_isDigit digits.1]
      rintro ⟨⟩
      rw [digits.1] at letter
      cases letter
  refine ⟨m, ?_, units⟩
  unfold readUnsigned?
  dsimp only
  rw [if_neg (unnamed 'n' _ rfl), if_neg (not_or.2 ⟨unnamed 'i' _ rfl, unnamed 'i' _ rfl⟩),
    Decimal.readUnsigned?_digits negative nonempty digits, Option.map_some, rounded]

/-- The sign of a whole number, where it has one, is that of its nearest double. -/
theorem signed_roundNat {negative : Bool} {n : Nat} {i : Int} (h : signed negative n = i) :
    signed negative (Magnitude.roundNat (n * one)) =
      signed (decide (i < 0)) (Magnitude.roundNat (i.natAbs * one)) := by
  cases negative with
  | false =>
    have size : i.natAbs = n := by
      rw [← h]
      exact Int.natAbs_natCast n
    have sign : ¬ i < 0 := by
      rw [← h]
      exact Int.not_lt.2 (Int.natCast_nonneg n)
    rw [size, decide_eq_false sign]
  | true =>
    have value : -(n : Int) = i := h
    by_cases zero : n = 0
    · rw [zero, show i = 0 by omega, Int.natAbs_zero, Nat.zero_mul]
      rfl
    · rw [show i.natAbs = n by omega, decide_eq_true (show i < 0 by omega)]

/-- What is read as a whole number is read as a finite double too, the nearest one. -/
theorem exists_readFinite? {cs : List Char} {w : Whole} (h : Whole.read? cs = some w) :
    ∃ negative m, readFinite? cs = some (.finite negative m) ∧
      signed negative m.units = signed (decide (w.toInt < 0)) (Magnitude.roundNat (w.toInt.natAbs * one)) := by
  obtain ⟨i, read, inside⟩ := Option.bind_eq_some_iff.1 h
  obtain rfl := Whole.ofInt?_eq_some_iff.1 inside
  have lower := w.lower
  have upper := w.upper
  suffices signed : ∃ negative m, read? cs = some (.finite negative m) ∧
      signed negative m.units = signed (decide (w.toInt < 0)) (Magnitude.roundNat (w.toInt.natAbs * one)) by
    obtain ⟨negative, m, hm, units⟩ := signed
    exact ⟨negative, m, by rw [readFinite?, hm]; rfl, units⟩
  unfold readInt? at read
  split at read
  · obtain ⟨n, digits, same⟩ := Option.map_eq_some_iff.1 read
    obtain ⟨m, hm, units⟩ := readUnsigned?_digits true digits (by omega)
    have value : signed true n = w.toInt := same
    refine ⟨true, m, hm, ?_⟩
    rw [units, signed_roundNat value]
  · rename_i unsigned
    obtain ⟨n, digits, same⟩ := Option.map_eq_some_iff.1 read
    have value : signed false n = w.toInt := same
    have small : n ≤ 2 ^ 127 := by
      change (n : Int) = w.toInt at value
      omega
    unfold Number.readUnsigned? at digits
    split at digits
    · obtain ⟨m, hm, units⟩ := readUnsigned?_digits false digits small
      refine ⟨false, m, hm, ?_⟩
      rw [units, signed_roundNat value]
    · rename_i unmarked
      obtain ⟨m, hm, units⟩ := readUnsigned?_digits false digits small
      refine ⟨false, m, ?_, ?_⟩
      · rw [read?, hm]
        · exact unsigned
        · exact unmarked
      · rw [units, signed_roundNat value]

end Double

end RecordFilter
