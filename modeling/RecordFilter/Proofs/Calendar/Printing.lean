import RecordFilter.Proofs.Calendar.Reading
import RecordFilter.Proofs.Number.Printing
import RecordFilter.Proofs.Text.Parts

set_option autoImplicit false

namespace RecordFilter

open Number (padded padded_ne_nil length_padded isDigit_of_mem_padded ofDigits_padded)
open Text (isMark)

namespace Calendar

variable {width n : Nat}

theorem trimStart_digits {ds : List Char} (filled : ds ≠ []) (digits : ∀ c ∈ ds, c.isDigit = true)
    (rest : List Char) : Text.trimStart (ds ++ rest) = ds ++ rest := by
  obtain ⟨d, ds, rfl⟩ := List.exists_cons_of_ne_nil filled
  exact trimStart_of_isDigit (digits d List.mem_cons_self) (ds ++ rest)

theorem readDigits?_padded (positive : 0 < width) (small : n < 10 ^ width) (rest : List Char) :
    readDigits? width (padded width n ++ rest) = some (n, rest) := by
  have read := readDigits?_append (padded_ne_nil width n) (fun _ => isDigit_of_mem_padded) rest
  rwa [length_padded positive small, ofDigits_padded] at read

theorem readShort?_padded (small : n < 100) (rest : List Char) :
    readShort? (padded 2 n ++ rest) = some (n, rest) := by
  rw [readShort?, trimStart_digits (padded_ne_nil 2 n) (fun _ => isDigit_of_mem_padded)]
  exact readDigits?_padded (by decide) small rest

theorem readTwo?_padded (small : n < 100) (rest : List Char) : readTwo? (padded 2 n ++ rest) = some (n, rest) := by
  have digits : ∀ c ∈ padded 2 n, c.isDigit = true := fun _ => isDigit_of_mem_padded
  have value := ofDigits_padded 2 n
  obtain ⟨a, b, two⟩ := List.length_eq_two.1 (length_padded (by decide) small)
  rw [two] at digits value ⊢
  have both := And.intro (digits a (by simp)) (digits b (by simp))
  rw [List.cons_append, List.cons_append, List.nil_append, readTwo?, if_pos both, value]

theorem readFour?_padded (small : n < 10000) (rest : List Char) :
    readFour? (padded 4 n ++ rest) = some (n, rest) := by
  have digits : ∀ c ∈ padded 4 n, c.isDigit = true := fun _ => isDigit_of_mem_padded
  have value := ofDigits_padded 4 n
  have long : (padded 4 n).length = 4 := length_padded (by decide) small
  match four : padded 4 n, long with
  | [a, b, c, d], _ =>
    rw [four] at digits value
    have all := And.intro (digits a (by simp)) (And.intro (digits b (by simp))
      (And.intro (digits c (by simp)) (digits d (by simp))))
    simp only [List.cons_append, List.nil_append]
    rw [readFour?, if_pos all, value]

/-- However many digits there are, they are read up to a character that is none. -/
theorem readDigits?_cons {ds : List Char} (filled : ds ≠ []) (digits : ∀ c ∈ ds, c.isDigit = true) {c : Char}
    (stop : c.isDigit = false) (rest : List Char) :
    readDigits? (ds ++ c :: rest).length (ds ++ c :: rest) = some (Number.ofDigits ds, c :: rest) := by
  have taken : ((ds ++ c :: rest).take (ds ++ c :: rest).length).takeWhile Char.isDigit = ds := by
    rw [List.take_length, List.takeWhile_append_of_pos digits, List.takeWhile_cons_of_neg (Bool.eq_false_iff.1 stop),
      List.append_nil]
  rw [readDigits?]
  simp only [taken, List.drop_left, List.isEmpty_iff, filled, if_false]

theorem readYear?_of_digits {ds : List Char} (filled : ds ≠ []) (digits : ∀ c ∈ ds, c.isDigit = true)
    (rest : List Char) :
    readYear? (ds ++ rest) = (readDigits? 4 (ds ++ rest)).map fun read => ((read.1 : Int), read.2) := by
  obtain ⟨d, ds, rfl⟩ := List.exists_cons_of_ne_nil filled
  have first := digits d List.mem_cons_self
  rw [List.cons_append]
  unfold readYear?
  split
  · rename_i sign
    cases sign
    cases first
  · rename_i sign
    cases sign
    cases first
  · rfl

theorem readYear?_yearText (y : Int) (rest : List Char) :
    readYear? (Date.yearText y ++ '-' :: rest) = some (y, '-' :: rest) := by
  have hyphen : Char.isDigit '-' = false := rfl
  have signed := readDigits?_cons (padded_ne_nil 4 y.natAbs) (fun _ => isDigit_of_mem_padded) hyphen rest
  rw [ofDigits_padded] at signed
  unfold Date.yearText
  split
  · rename_i four
    rw [readYear?_of_digits (padded_ne_nil 4 y.toNat) (fun _ => isDigit_of_mem_padded),
      readDigits?_padded (by decide) (by omega), Option.map_some, Int.toNat_of_nonneg four.1]
  · rename_i long
    split
    · rename_i negative
      rw [List.cons_append]
      simp only [readYear?, signed, Option.map_some]
      rw [Int.ofNat_natAbs_of_nonpos (by omega), Int.neg_neg]
    · rw [List.cons_append]
      simp only [readYear?, signed, Option.map_some]
      rw [Int.natAbs_of_nonneg (by omega)]

theorem readFraction?_padded (positive : 0 < width) (short : width ≤ 9) (small : n < 10 ^ width) :
    readFraction? ('.' :: padded width n) = some (n * 10 ^ (9 - width), []) := by
  have all : (padded width n).takeWhile Char.isDigit = padded width n :=
    List.takeWhile_eq_self_iff.2 fun _ => isDigit_of_mem_padded
  have long := length_padded positive small
  have kept : (padded width n).take 9 = padded width n := List.take_of_length_le (by omega)
  simp only [readFraction?, all, kept, long, List.isEmpty_iff, padded_ne_nil, if_false, ofDigits_padded]
  rw [List.drop_of_length_le (le_of_eq long)]
  rfl

theorem readFraction?_fractionText (small : n < 10 ^ 9) : readFraction? (Time.fractionText n) = some (n, []) := by
  unfold Time.fractionText
  split
  · rename_i whole
    rw [whole]
    rfl
  split
  · rename_i millis
    rw [readFraction?_padded (by decide) (by decide) (by omega), Nat.div_mul_cancel (Nat.dvd_of_mod_eq_zero millis)]
  split
  · rename_i micros
    rw [readFraction?_padded (by decide) (by decide) (by omega), Nat.div_mul_cancel (Nat.dvd_of_mod_eq_zero micros)]
  · rw [readFraction?_padded (by decide) (by decide) small, Nat.sub_self, Nat.pow_zero, Nat.mul_one]

theorem expect?_self (c : Char) (cs : List Char) : expect? c (c :: cs) = some cs := if_pos rfl

variable (p : Parts) (d : Date) (t : Time)

theorem day_lt : d.day < 100 := by
  have last := d.day_le
  unfold daysInMonth at last
  split_ifs at last <;> omega

theorem month_lt : d.month < 100 := Nat.lt_of_le_of_lt d.month_le (by decide)

theorem readParts?_date (rest : List Char) (more : List Part) :
    readParts? p (d.text ++ rest) (datePattern ++ more) =
      readParts? { p with year := d.year, month := d.month, day := d.day } rest more := by
  have year : (Part.year).read? p (d.text ++ rest) =
      some ({ p with year := d.year }, '-' :: (padded 2 d.month ++ ('-' :: (padded 2 d.day ++ rest)))) := by
    have start : Text.trimStart (d.text ++ rest) = d.text ++ rest := by
      unfold Date.text Date.yearText
      split
      · simp only [List.append_assoc]
        exact trimStart_digits (padded_ne_nil 4 _) (fun _ => isDigit_of_mem_padded) _
      · split <;> rfl
    rw [Part.read?, start]
    simp only [Date.text, List.append_assoc, List.cons_append, readYear?_yearText, Option.map_some]
  simp only [datePattern, List.cons_append, List.nil_append]
  rw [readParts?, year]
  simp only [readParts?, Part.read?, expect?_self, readShort?_padded (month_lt d), readShort?_padded (day_lt d),
    Option.map_some]

theorem readParts?_time :
    readParts? p t.text secondPattern =
      some { p with hour := t.hour, minute := t.minute, second := t.second, nanosecond := t.nanosecond } := by
  have hour := Nat.lt_trans t.hour_lt (show 24 < 100 by decide)
  have minute := Nat.lt_trans t.minute_lt (show 60 < 100 by decide)
  have second := Nat.lt_of_le_of_lt t.second_le (show 60 < 100 by decide)
  simp only [secondPattern, minutePattern, Time.text, List.append_assoc, List.cons_append, List.nil_append, readParts?,
    Part.read?, expect?_self, readShort?_padded hour, readShort?_padded minute, readShort?_padded second,
    readFraction?_fractionText t.nanosecond_lt, Option.map_some, List.isEmpty_nil, if_true]

theorem trimStart_time : Text.trimStart (' ' :: t.text) = t.text := by
  have digits := trimStart_digits (padded_ne_nil 2 t.hour) (fun _ => isDigit_of_mem_padded)
  have blank : Text.trimStart (' ' :: t.text) = Text.trimStart t.text := rfl
  rw [blank]
  simp only [Time.text, List.append_assoc]
  exact digits _

theorem readTimestamp?_of_not_isDigit {c : Char} (sign : c.isDigit = false) (cs : List Char) :
    readTimestamp? (c :: cs) = none := by
  suffices unread : readFour? (c :: cs) = none by
    rw [readTimestamp?, unread]
    rfl
  unfold readFour?
  split
  · rename_i heads
    cases heads
    exact if_neg fun digits => Bool.eq_false_iff.1 sign digits.1
  · rfl

/-- No offset follows the time of a written date-time, and a year with a sign is not the year of a timestamp. -/
theorem readTimestamp?_text (t : DateTime) : readTimestamp? t.text = none := by
  have hour := Nat.lt_trans t.time.hour_lt (show 24 < 100 by decide)
  have minute := Nat.lt_trans t.time.minute_lt (show 60 < 100 by decide)
  have second := Nat.lt_of_le_of_lt t.time.second_le (show 60 < 100 by decide)
  have step {α β : Type} {x : Option α} {a : α} (read : x = some a) (next : α → Option β) : x.bind next = next a :=
    read ▸ Option.bind_some a next
  simp only [DateTime.text, Date.text, Date.yearText, Time.text, List.append_assoc, List.cons_append]
  split
  · rename_i four
    have year : t.date.year.toNat < 10000 := by omega
    refine (step (readFour?_padded year _) _).trans ?_
    refine (step (expect?_self '-' _) _).trans ?_
    refine (step (readTwo?_padded (month_lt t.date) _) _).trans ?_
    refine (step (expect?_self '-' _) _).trans ?_
    refine (step (readTwo?_padded (day_lt t.date) _) _).trans ?_
    refine (step (readTwo?_padded hour _) _).trans ?_
    refine (step (expect?_self ':' _) _).trans ?_
    refine (step (readTwo?_padded minute _) _).trans ?_
    refine (step (expect?_self ':' _) _).trans ?_
    refine (step (readTwo?_padded second _) _).trans ?_
    exact step (readFraction?_fractionText t.time.nanosecond_lt) _
  · split <;> exact readTimestamp?_of_not_isDigit rfl _

theorem readPattern?_date : readPattern? datePattern d.text = some d.midnight := by
  have parts := readParts?_date ⟨0, 0, 0, 0, 0, 0, 0⟩ d [] []
  have done (q : Parts) : readParts? q [] [] = some q := rfl
  rw [List.append_nil, List.append_nil, done] at parts
  rw [readPattern?, parts]
  simp only [Option.bind_eq_bind, Option.bind_some, Date.of?_eq_some_iff.2 ⟨rfl, rfl, rfl⟩]
  rfl

/-- Between the date and the time stands a blank, so it is the second pattern that reads a written date-time. -/
theorem findSome?_dateTimePatterns (t : DateTime) :
    dateTimePatterns.findSome? (readPattern? · t.text) = some t := by
  have first : readPattern? (datePattern ++ .mark 'T' :: secondPattern) t.text = none := by
    rw [readPattern?, DateTime.text, readParts?_date]
    rfl
  have second : readPattern? (datePattern ++ .blanks :: secondPattern) t.text = some t := by
    rw [readPattern?, DateTime.text, readParts?_date, readParts?]
    simp only [Part.read?, trimStart_time, readParts?_time, Option.bind_eq_bind, Option.bind_some,
      Date.of?_eq_some_iff.2 ⟨rfl, rfl, rfl⟩, Time.of?_eq_some_iff.2 ⟨rfl, rfl, rfl, rfl⟩]
  rw [dateTimePatterns, List.findSome?_cons, first, List.findSome?_cons, second]

end Calendar

theorem Date.isMark_of_mem_text (d : Date) : ∀ c ∈ d.text, isMark c = true := by
  have year : ∀ c ∈ yearText d.year, isMark c = true := by
    unfold yearText
    split
    · exact Number.isMark_of_mem_padded
    · refine List.forall_mem_cons.2 ⟨?_, Number.isMark_of_mem_padded⟩
      split <;> rfl
  have after {n : Nat} : ∀ c ∈ '-' :: padded 2 n, isMark c = true :=
    List.forall_mem_cons.2 ⟨rfl, Number.isMark_of_mem_padded⟩
  exact List.forall_mem_append.2 ⟨List.forall_mem_append.2 ⟨year, after⟩, after⟩

theorem Time.isMark_of_mem_text (t : Time) : ∀ c ∈ t.text, isMark c = true := by
  have fraction : ∀ c ∈ fractionText t.nanosecond, isMark c = true := by
    have point {width n : Nat} : ∀ c ∈ '.' :: padded width n, isMark c = true :=
      List.forall_mem_cons.2 ⟨rfl, Number.isMark_of_mem_padded⟩
    unfold fractionText
    split
    · exact List.forall_mem_nil _
    split
    · exact point
    split <;> exact point
  have after {n : Nat} : ∀ c ∈ ':' :: padded 2 n, isMark c = true :=
    List.forall_mem_cons.2 ⟨rfl, Number.isMark_of_mem_padded⟩
  simp only [text, List.forall_mem_append]
  exact ⟨⟨⟨Number.isMark_of_mem_padded, after⟩, after⟩, fraction⟩

theorem Date.text_ne_nil (d : Date) : d.text ≠ [] := List.append_ne_nil_of_right_ne_nil _ (List.cons_ne_nil _ _)

theorem Time.text_ne_nil (t : Time) : t.text ≠ [] := by
  unfold text
  simp [padded_ne_nil]

theorem Date.read?_text (d : Date) : read? d.text = some d := by
  have plain : readPlain? d.text = some d := by
    rw [readPlain?, Calendar.readPattern?_date]
    rfl
  rw [read?, Text.trim_eq_self_iff.2 (Text.isTrimmed_of_isMark d.isMark_of_mem_text), plain]
  rfl

theorem DateTime.isTrimmed_text (t : DateTime) : Text.IsTrimmed t.text := by
  have marks := List.forall_mem_append.2 ⟨t.date.isMark_of_mem_text, t.time.isMark_of_mem_text⟩
  have trimmed := Text.isTrimmed_append ⟨t.date.text_ne_nil, t.time.text_ne_nil⟩ marks [' ']
  rwa [List.append_assoc] at trimmed

theorem DateTime.read?_text (t : DateTime) : read? t.text = some t := by
  simp only [read?]
  rw [Text.trim_eq_self_iff.2 t.isTrimmed_text, Calendar.readTimestamp?_text, Calendar.findSome?_dateTimePatterns]
  rfl

end RecordFilter
