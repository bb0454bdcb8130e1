import Mathlib.Data.List.Basic
import RecordFilter.Json.Printer
import RecordFilter.Json.Reader

set_option autoImplicit false

/-!
# Written documents read back

The printer writes every document whose strings are texts and whose numbers are in the form of JSON numbers so that
the reader finds the same document, whatever may follow a value.
-/

namespace RecordFilter

namespace Number

theorem head?_digits_ne {n : Nat} (h : n ≠ 0) : (digits n).head? ≠ some '0' := by
  fun_induction digits n with
  | case1 n small =>
    intro zero
    have value := digitValue_digitChar small
    rw [Option.some.inj zero] at value
    exact h value.symm
  | case2 n large ih =>
    rw [List.head?_append_of_ne_nil _ (digits_ne_nil (n / 10))]
    exact ih (by omega)

end Number

namespace Json

open RecordFilter.Number (digits digits_ne_nil isDigit_of_mem_digits ofDigits_digits head?_digits_ne intText)

/-- A piece that the escape of a character is read as, and that stands for the character. -/
structure Piece.Spells (p : Piece) (c : Char) : Prop where
  read : ∀ read rest, readPieces? read (escapedChar c ++ rest) = readPieces? (p :: read) rest
  join : ∀ ps, joinPieces? (p :: ps) = (joinPieces? ps).map (c :: ·)

theorem readHex?_unit {n : Nat} (h : n < 0x10000) :
    Text.readHex? ([n / 4096, n / 256, n / 16, n].map fun d => Text.hexDigit ⟨d % 16, Nat.mod_lt d (by decide)⟩) =
      some n := by
  have value : 16 * (16 * (16 * (n / 4096 % 16) + n / 256 % 16) + n / 16 % 16) + n % 16 = n := by omega
  simp [Text.readHex?, Text.hexValue?_hexDigit, Text.ofHexDigits, value]

theorem readPieces?_unitEscape {n : Nat} (h : n < 0x10000) (read : List Piece) (rest : List Char) :
    readPieces? read (unitEscape n ++ rest) = readPieces? (.unit n :: read) rest := by
  have hex := readHex?_unit h
  simp only [List.map_cons, List.map_nil] at hex
  simp only [unitEscape, List.map_cons, List.map_nil, List.cons_append, List.nil_append, readPieces?, hex]

def namedEscapes : List Char := ['"', '\\', '\x08', '\x0c', '\n', '\r', '\t']

theorem escapedChar_of_not_mem {c : Char} (h : c ∉ namedEscapes) :
    escapedChar c = if c.toNat < 0x20 then unitEscape c.toNat else [c] := by
  unfold escapedChar
  split <;> first | rfl | exact absurd (by decide) h

theorem exists_spells (c : Char) : ∃ p : Piece, p.Spells c := by
  by_cases named : c ∈ namedEscapes
  · refine ⟨.char c, ?_, fun ps => rfl⟩
    simp only [namedEscapes, List.mem_cons, List.not_mem_nil, or_false] at named
    rcases named with rfl | rfl | rfl | rfl | rfl | rfl | rfl <;> exact fun read rest => rfl
  by_cases control : c.toNat < 0x20
  · refine ⟨.unit c.toNat, ?_, ?_⟩
    · intro read rest
      rw [escapedChar_of_not_mem named, if_pos control, readPieces?_unitEscape (by omega)]
    · intro ps
      have notTrailing : isTrailingHalf c.toNat = false := by simp [isTrailingHalf]; omega
      have notLeading : isLeadingHalf c.toNat = false := by simp [isLeadingHalf]; omega
      simp [joinPieces?.eq_def (.unit c.toNat :: ps), notTrailing, notLeading]
  · refine ⟨.char c, ?_, fun ps => rfl⟩
    intro read rest
    have notQuote : c ≠ '"' := fun h => named (h ▸ by decide)
    have notSlash : c ≠ '\\' := fun h => named (h ▸ by decide)
    rw [escapedChar_of_not_mem named, if_neg control, List.singleton_append]
    simp [readPieces?, notSlash, control]

theorem exists_readPieces?_eq (cs : List Char) (read : List Piece) (rest : List Char) :
    ∃ ps, readPieces? read (cs.flatMap escapedChar ++ '"' :: rest) = some (read.reverse ++ ps, rest) ∧
      joinPieces? ps = some cs := by
  induction cs generalizing read with
  | nil => exact ⟨[], by simp [readPieces?], rfl⟩
  | cons c cs ih =>
    obtain ⟨p, spells⟩ := exists_spells c
    obtain ⟨ps, hread, hjoin⟩ := ih (p :: read)
    refine ⟨p :: ps, ?_, ?_⟩
    · rw [List.flatMap_cons, List.append_assoc, spells.read, hread, List.reverse_cons, List.append_assoc]
      rfl
    · rw [spells.join, hjoin]
      rfl

theorem readString?_escaped (s : String) (rest : List Char) :
    readString? (s.toList.flatMap escapedChar ++ '"' :: rest) = some (some s, rest) := by
  obtain ⟨ps, hread, hjoin⟩ := exists_readPieces?_eq s.toList [] rest
  simp [readString?, hread, hjoin]

def Stops (kind : Char → Bool) (rest : List Char) : Prop := ∀ c ∈ rest.head?, kind c = false

/-- What may follow a value: nothing, the next item or member, or the end of an array or an object. -/
def EndsValue (rest : List Char) : Prop := ∀ c ∈ rest.head?, c = ',' ∨ c = ']' ∨ c = '}'

theorem EndsValue.stops {rest : List Char} (ends : EndsValue rest) {kind : Char → Bool} (comma : kind ',' = false)
    (bracket : kind ']' = false) (brace : kind '}' = false) : Stops kind rest := by
  intro c hc
  rcases ends c hc with rfl | rfl | rfl <;> assumption

theorem ne_of_isDigit {c d : Char} (digit : c.isDigit = true) (other : d.isDigit = false) : c ≠ d := by
  rintro rfl
  rw [other] at digit
  cases digit

theorem readDigits?_append {ds rest : List Char} (nonempty : ds ≠ []) (digits : ∀ c ∈ ds, c.isDigit = true)
    (stops : Stops Char.isDigit rest) : readDigits? (ds ++ rest) = some (ds, rest) := by
  have taken : (ds ++ rest).takeWhile Char.isDigit = ds := by
    rw [List.takeWhile_append_of_pos digits]
    cases rest with
    | nil => simp
    | cons c rest => simp [stops c rfl]
  have left : (ds ++ rest).dropWhile Char.isDigit = rest := by
    rw [List.dropWhile_append_of_pos digits]
    cases rest with
    | nil => rfl
    | cons c rest => simp [stops c rfl]
  obtain ⟨d, ds, rfl⟩ := List.exists_cons_of_ne_nil nonempty
  rw [readDigits?, taken, left]

namespace Number

/-- The form of a number in a document: no zero stands in front of other digits. -/
structure IsWritten (n : Number) : Prop where
  nonempty : n.whole ≠ []
  noZero : n.whole = ['0'] ∨ n.whole.head? ≠ some '0'
  whole : ∀ c ∈ n.whole, c.isDigit = true
  fraction : ∀ c ∈ n.fraction, c.isDigit = true

theorem isWritten_ofInt (i : Int) : (ofInt i).IsWritten := by
  refine ⟨digits_ne_nil _, ?_, fun c hc => isDigit_of_mem_digits hc, ?_⟩
  · by_cases zero : i.natAbs = 0
    · left
      rw [ofInt, zero]
      simp [digits, RecordFilter.Number.digitChar]
    · exact Or.inr (head?_digits_ne zero)
  · intro c hc
    cases hc

theorem toInt?_ofInt (i : Int) : (ofInt i).toInt? = some i := by
  have value := ofDigits_digits i.natAbs
  by_cases negative : i < 0
  · have sign : -(i.natAbs : Int) = i := by omega
    have notZero : (digits i.natAbs == ['0']) = false := by
      rw [beq_eq_false_iff_ne]
      intro zero
      rw [zero] at value
      have : i.natAbs = 0 := value.symm
      omega
    simp only [toInt?, ofInt, negative, notZero, value, sign, decide_true, List.isEmpty_nil, Option.isNone_none,
      Bool.and_false, Bool.and_true, Bool.not_false, if_true]
  · have sign : (i.natAbs : Int) = i := by omega
    simp only [toInt?, ofInt, negative, value, sign, decide_false, List.isEmpty_nil, Option.isNone_none,
      Bool.false_and, Bool.and_true, Bool.not_false, if_true, Bool.false_eq_true, if_false]

def fractionText (n : Number) : List Char := if n.fraction.isEmpty then [] else '.' :: n.fraction

def exponentText (n : Number) : List Char :=
  match n.exponent with
  | none => []
  | some e => 'e' :: intText e

theorem text_append (n : Number) (rest : List Char) :
    n.text ++ rest = (if n.negative then ['-'] else []) ++ (n.whole ++ (n.fractionText ++ (n.exponentText ++ rest))) := by
  simp only [text, List.append_assoc]
  rfl

theorem stops_exponentText (n : Number) {kind : Char → Bool} (mark : kind 'e' = false) {rest : List Char}
    (stops : Stops kind rest) : Stops kind (n.exponentText ++ rest) := by
  unfold exponentText
  cases n.exponent with
  | none => exact stops
  | some e => rintro c ⟨⟩; exact mark

theorem stops_fractionText (n : Number) {kind : Char → Bool} (point : kind '.' = false) {rest : List Char}
    (stops : Stops kind rest) : Stops kind (n.fractionText ++ rest) := by
  unfold fractionText
  cases n.fraction with
  | nil => exact stops
  | cons d ds => rintro c ⟨⟩; exact point

variable {n : Number}

theorem IsWritten.readWhole?_append (h : n.IsWritten) {rest : List Char} (stops : Stops Char.isDigit rest) :
    readWhole? (n.whole ++ rest) = some (n.whole, rest) := by
  rcases h.noZero with zero | noZero
  · rw [zero]
    rfl
  · have hread := readDigits?_append h.nonempty h.whole stops
    obtain ⟨d, ds, first⟩ := List.exists_cons_of_ne_nil h.nonempty
    rw [first] at noZero hread ⊢
    have : d ≠ '0' := fun h => noZero (h ▸ rfl)
    simpa [readWhole?, this] using hread

theorem IsWritten.readFraction?_append (h : n.IsWritten) {rest : List Char} (noDigit : Stops Char.isDigit rest)
    (noPoint : Stops (· == '.') rest) : readFraction? (n.fractionText ++ rest) = some (n.fraction, rest) := by
  have digits := h.fraction
  unfold fractionText
  cases hf : n.fraction with
  | nil =>
    cases rest with
    | nil => rfl
    | cons c rest =>
      have : c ≠ '.' := beq_eq_false_iff_ne.1 (noPoint c rfl)
      simp [readFraction?, this]
  | cons d ds => exact readDigits?_append (List.cons_ne_nil d ds) (hf ▸ digits) noDigit

theorem readExponent?_intText (e : Int) {rest : List Char} (noDigit : Stops Char.isDigit rest) :
    readExponent? ('e' :: (intText e ++ rest)) = some (some e, rest) := by
  have isDigit : ∀ c ∈ digits e.natAbs, c.isDigit = true := fun c hc => isDigit_of_mem_digits hc
  have hread := readDigits?_append (digits_ne_nil e.natAbs) isDigit noDigit
  have value := ofDigits_digits e.natAbs
  by_cases negative : e < 0
  · have sign : -(e.natAbs : Int) = e := by omega
    simp only [readExponent?, intText, negative, List.cons_append, hread, Option.map_some, value, sign, if_true, true_or]
  · have sign : (e.natAbs : Int) = e := by omega
    rw [intText, if_neg negative]
    obtain ⟨d, ds, first⟩ := List.exists_cons_of_ne_nil (digits_ne_nil e.natAbs)
    rw [first] at isDigit hread value ⊢
    have notPlus : d ≠ '+' := ne_of_isDigit (isDigit d List.mem_cons_self) rfl
    have notMinus : d ≠ '-' := ne_of_isDigit (isDigit d List.mem_cons_self) rfl
    rw [List.cons_append] at hread
    simp only [readExponent?, List.cons_append, List.cons.injEq, notPlus, notMinus, false_and, imp_self, implies_true,
      hread, Option.map_some, value, sign, if_true, true_or, Bool.false_eq_true, if_false]

theorem readExponent?_append (n : Number) {rest : List Char} (noDigit : Stops Char.isDigit rest)
    (noMark : Stops (fun c => c == 'e' || c == 'E') rest) :
    readExponent? (n.exponentText ++ rest) = some (n.exponent, rest) := by
  unfold exponentText
  cases n.exponent with
  | some e => exact readExponent?_intText e noDigit
  | none =>
    cases rest with
    | nil => rfl
    | cons c rest =>
      have other := noMark c rfl
      simp only [Bool.or_eq_false_iff, beq_eq_false_iff_ne] at other
      simp [readExponent?, other.1, other.2]

theorem IsWritten.readNumber?_text (h : n.IsWritten) {rest : List Char} (ends : EndsValue rest) :
    readNumber? (n.text ++ rest) = some (n, rest) := by
  have noDigit : Stops Char.isDigit (n.exponentText ++ rest) := n.stops_exponentText rfl (ends.stops rfl rfl rfl)
  have noPoint : Stops (· == '.') (n.exponentText ++ rest) := n.stops_exponentText rfl (ends.stops rfl rfl rfl)
  have hexponent := n.readExponent?_append (ends.stops rfl rfl rfl) (ends.stops rfl rfl rfl)
  have hfraction := h.readFraction?_append noDigit noPoint
  have hwhole := h.readWhole?_append (n.stops_fractionText rfl noDigit)
  rw [text_append]
  obtain ⟨negative, whole, fraction, exponent⟩ := n
  cases negative with
  | true => simp [readNumber?, hwhole, hfraction, hexponent]
  | false =>
    obtain ⟨d, ds, rfl⟩ := List.exists_cons_of_ne_nil h.nonempty
    have notMinus : d ≠ '-' := ne_of_isDigit (h.whole d List.mem_cons_self) rfl
    simp only [List.cons_append] at hwhole
    simp [readNumber?, notMinus, hwhole, hfraction, hexponent]

end Number

/-- A document that has a text: its strings and names are texts, its numbers have the form of numbers. -/
inductive IsWritten : Json → Prop where
  | null : IsWritten null
  | bool (b : Bool) : IsWritten (bool b)
  | number {n : Number} (form : n.IsWritten) : IsWritten (number n)
  | string (s : String) : IsWritten (ofString s)
  | array {items : List Json} (written : ∀ j ∈ items, IsWritten j) : IsWritten (array items)
  | object {members : List (Text × Json)} (named : ∀ m ∈ members, m.1.isSome = true)
      (written : ∀ m ∈ members, IsWritten m.2) : IsWritten (object members)

/-- The reader finds the document, if it has two steps for each character and a value may end there. -/
def Reads (j : Json) : Prop :=
  ∀ fuel rest, 2 * j.chars.length ≤ fuel + 1 → EndsValue rest →
    readValue? (fuel + 1) (j.chars ++ rest) = some (j, rest)

theorem Number.IsWritten.text_start {n : Number} (h : n.IsWritten) :
    ∃ c cs, n.text = c :: cs ∧ (c = '-' ∨ c.isDigit = true) := by
  obtain ⟨negative, whole, fraction, exponent⟩ := n
  obtain ⟨d, ds, rfl⟩ := List.exists_cons_of_ne_nil h.nonempty
  cases negative with
  | true => exact ⟨'-', _, rfl, Or.inl rfl⟩
  | false => exact ⟨d, _, rfl, Or.inr (h.whole d List.mem_cons_self)⟩

theorem isSpace_of_text_start {c : Char} (h : c = '-' ∨ c.isDigit = true) : isSpace c = false := by
  rcases h with rfl | digit
  · rfl
  · simp only [isSpace, Bool.or_eq_false_iff, beq_eq_false_iff_ne]
    exact ⟨⟨⟨ne_of_isDigit digit rfl, ne_of_isDigit digit rfl⟩, ne_of_isDigit digit rfl⟩, ne_of_isDigit digit rfl⟩

theorem IsWritten.chars_start {j : Json} (h : j.IsWritten) :
    ∃ c cs, j.chars = c :: cs ∧ isSpace c = false ∧ c ≠ ']' := by
  cases h with
  | null => exact ⟨_, _, rfl, by decide⟩
  | bool b => cases b <;> exact ⟨_, _, rfl, by decide⟩
  | string s => exact ⟨_, _, rfl, by decide⟩
  | @array items written => cases items <;> exact ⟨_, _, rfl, by decide⟩
  | @object members named written => rcases members with _ | ⟨⟨k, j⟩, ms⟩ <;> exact ⟨_, _, rfl, by decide⟩
  | number form =>
    obtain ⟨c, cs, text, start⟩ := form.text_start
    refine ⟨c, cs, text, isSpace_of_text_start start, ?_⟩
    rcases start with rfl | digit
    · decide
    · exact ne_of_isDigit digit rfl

theorem skipSpace_of_start {c : Char} {cs : List Char} (h : isSpace c = false) : skipSpace (c :: cs) = c :: cs := by
  simp [skipSpace, h]

theorem readValue?_of_text_start {c : Char} {cs : List Char} (h : c = '-' ∨ c.isDigit = true) (fuel : Nat) :
    readValue? (fuel + 1) (c :: cs) = (readNumber? (c :: cs)).map fun r => (number r.1, r.2) := by
  rw [readValue?, skipSpace_of_start (isSpace_of_text_start h)]
  split
  case h_8 => rfl
  case h_1 heq => cases heq
  all_goals
    rename_i heq
    injection heq with head
    subst head
    rcases h with h | h <;> cases h

theorem endsValue_itemChars (js : List Json) (rest : List Char) : EndsValue (itemChars js ++ rest) := by
  cases js <;> (rintro c ⟨⟩; decide)

theorem endsValue_memberChars (ms : List (Text × Json)) (rest : List Char) : EndsValue (memberChars ms ++ rest) := by
  rcases ms with _ | ⟨⟨k, j⟩, ms⟩ <;> (rintro c ⟨⟩; decide)

theorem readItems?_chars {j : Json} {js : List Json} (first : Reads j) (others : ∀ i ∈ js, Reads i) {fuel : Nat}
    (rest : List Char) (enough : 2 * (j.chars ++ itemChars js).length ≤ fuel) :
    readItems? fuel (j.chars ++ (itemChars js ++ rest)) = some (j :: js, rest) := by
  rw [List.length_append] at enough
  induction js generalizing j fuel with
  | nil =>
    rw [itemChars, List.length_singleton] at enough
    obtain ⟨fuel, rfl⟩ := Nat.exists_eq_add_of_le' (by omega : 2 ≤ fuel)
    rw [readItems?, first fuel _ (by omega) (endsValue_itemChars [] rest)]
    rfl
  | cons i is ih =>
    rw [itemChars, List.cons_append, List.length_cons, List.length_append] at enough
    obtain ⟨fuel, rfl⟩ := Nat.exists_eq_add_of_le' (by omega : 2 ≤ fuel)
    rw [List.forall_mem_cons] at others
    have later : readItems? (fuel + 1) (i.chars ++ (itemChars is ++ rest)) = some (i :: is, rest) :=
      ih others.1 others.2 (by omega)
    rw [readItems?, first fuel _ (by omega) (endsValue_itemChars (i :: is) rest)]
    simp [itemChars, skipSpace_of_start, isSpace, later]

theorem quoted_append (k : String) (rest : List Char) :
    Text.quoted (some k) ++ rest = '"' :: (k.toList.flatMap escapedChar ++ '"' :: rest) := by
  simp [Text.quoted, Json.quoted]

theorem readMembers?_chars {k : String} {j : Json} {ms : List (Text × Json)} (first : Reads j)
    (named : ∀ m ∈ ms, m.1.isSome = true) (others : ∀ m ∈ ms, Reads m.2) {fuel : Nat} (rest : List Char)
    (enough : 2 * (j.chars ++ memberChars ms).length ≤ fuel) :
    readMembers? fuel (Text.quoted (some k) ++ ':' :: (j.chars ++ (memberChars ms ++ rest))) =
      some ((some k, j) :: ms, rest) := by
  rw [List.length_append] at enough
  induction ms generalizing k j fuel with
  | nil =>
    rw [memberChars, List.length_singleton] at enough
    obtain ⟨fuel, rfl⟩ := Nat.exists_eq_add_of_le' (by omega : 2 ≤ fuel)
    have value : readValue? (fuel + 1) (j.chars ++ '}' :: rest) = some (j, '}' :: rest) :=
      first fuel _ (by omega) (endsValue_memberChars [] rest)
    rw [quoted_append, readMembers?, skipSpace_of_start rfl]
    simp [readString?_escaped, skipSpace_of_start, isSpace, value, memberChars]
  | cons m ms ih =>
    obtain ⟨⟨⟩ | l, i⟩ := m
    · cases named _ List.mem_cons_self
    have follows := endsValue_memberChars ((some l, i) :: ms) rest
    simp only [memberChars, List.cons_append, List.append_assoc, List.length_cons, List.length_append,
      List.forall_mem_cons] at enough named others follows ⊢
    obtain ⟨fuel, rfl⟩ := Nat.exists_eq_add_of_le' (by omega : 2 ≤ fuel)
    have value := first fuel _ (by omega) follows
    have later : readMembers? (fuel + 1) (Text.quoted (some l) ++ ':' :: (i.chars ++ (memberChars ms ++ rest))) =
        some ((some l, i) :: ms, rest) := ih others.1 named.2 others.2 (by omega)
    rw [quoted_append, readMembers?, skipSpace_of_start rfl]
    simp [readString?_escaped, skipSpace_of_start, isSpace, value, later]

theorem IsWritten.reads {j : Json} (h : j.IsWritten) : Reads j := by
  induction h with
  | null => exact fun fuel rest enough ends => rfl
  | bool b =>
    intro fuel rest enough ends
    cases b <;> rfl
  | string s =>
    intro fuel rest enough ends
    rw [ofString, chars, quoted_append, readValue?, skipSpace_of_start rfl]
    simp [readString?_escaped]
  | @array items written ih =>
    intro fuel rest enough ends
    cases items with
    | nil => rfl
    | cons j js =>
      rw [List.forall_mem_cons] at written ih
      simp only [chars, List.cons_append, List.length_cons, List.append_assoc] at enough ⊢
      have items := readItems?_chars ih.1 ih.2 rest (by omega : _ ≤ fuel)
      obtain ⟨c, cs, start, noSpace, notEnd⟩ := written.1.chars_start
      rw [start, List.cons_append] at items
      rw [start, List.cons_append, readValue?, skipSpace_of_start rfl]
      simp [skipSpace_of_start noSpace, notEnd, items]
  | @object members named written ih =>
    intro fuel rest enough ends
    rcases members with _ | ⟨⟨⟨⟩ | k, j⟩, ms⟩
    · rfl
    · cases named _ List.mem_cons_self
    simp only [List.forall_mem_cons] at named ih
    simp only [chars, List.cons_append, List.length_cons, List.length_append, List.append_assoc] at enough ⊢
    have members : readMembers? fuel (Text.quoted (some k) ++ ':' :: (j.chars ++ (memberChars ms ++ rest))) =
        some ((some k, j) :: ms, rest) :=
      readMembers?_chars ih.1 named.2 ih.2 rest (by rw [List.length_append]; omega)
    rw [readValue?, skipSpace_of_start rfl]
    rw [quoted_append] at members ⊢
    simp [skipSpace_of_start, isSpace, members]
  | number form =>
    intro fuel rest enough ends
    obtain ⟨c, cs, text, start⟩ := form.text_start
    have read := form.readNumber?_text ends
    rw [text, List.cons_append] at read
    rw [chars, text, List.cons_append, readValue?_of_text_start start, read]
    rfl

theorem IsWritten.ofText?_text {j : Json} (h : j.IsWritten) : ofText? j.text = some j := by
  have read := h.reads (2 * j.chars.length + 1) [] (by omega) nofun
  rw [List.append_nil] at read
  rw [ofText?, text, String.toList_ofList, ofChars?, read]
  rfl

end Json

end RecordFilter
