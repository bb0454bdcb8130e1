import RecordFilter.Calendar.Reading
import RecordFilter.Proofs.Number.Reading

set_option autoImplicit false

namespace RecordFilter.Calendar

theorem isBlank_of_isDigit {c : Char} (h : c.isDigit = true) : Text.isBlank c = false := by
  have place := Number.toNat_of_isDigit h
  simp [Text.isBlank]
  omega

theorem trimStart_of_isDigit {c : Char} (h : c.isDigit = true) (cs : List Char) :
    Text.trimStart (c :: cs) = c :: cs :=
  List.dropWhile_cons_of_neg (Bool.eq_false_iff.1 (isBlank_of_isDigit h))

theorem readTwo?_eq_some {cs rest : List Char} {n : Nat} (h : readTwo? cs = some (n, rest)) :
    ∃ a b, a.isDigit = true ∧ b.isDigit = true ∧ cs = a :: b :: rest := by
  unfold readTwo? at h
  split at h
  · rename_i a b cs
    split at h
    · rename_i digits
      cases h
      exact ⟨a, b, digits.1, digits.2, rfl⟩
    · cases h
  · cases h

theorem readFour?_eq_some {cs rest : List Char} {n : Nat} (h : readFour? cs = some (n, rest)) :
    ∃ a b c d, a.isDigit = true ∧ b.isDigit = true ∧ c.isDigit = true ∧ d.isDigit = true ∧
      cs = a :: b :: c :: d :: rest := by
  unfold readFour? at h
  split at h
  · rename_i a b c d cs
    split at h
    · rename_i digits
      cases h
      exact ⟨a, b, c, d, digits.1, digits.2.1, digits.2.2.1, digits.2.2.2, rfl⟩
    · cases h
  · cases h

theorem expect?_eq_some {c : Char} {cs rest : List Char} (h : expect? c cs = some rest) : cs = c :: rest := by
  cases cs with
  | nil => cases h
  | cons d cs =>
    by_cases same : d = c
    · rw [expect?, if_pos same] at h
      cases h
      rw [same]
    · rw [expect?, if_neg same] at h
      cases h

theorem readDigits?_append {ds : List Char} (filled : ds ≠ []) (digits : ∀ c ∈ ds, c.isDigit = true)
    (rest : List Char) : readDigits? ds.length (ds ++ rest) = some (Number.ofDigits ds, rest) := by
  have taken : ((ds ++ rest).take ds.length).takeWhile Char.isDigit = ds := by
    rw [List.take_left, List.takeWhile_eq_self_iff]
    exact digits
  rw [readDigits?]
  simp only [taken, List.drop_left, List.isEmpty_iff, filled, if_false]

theorem readShort?_two {a b : Char} (ha : a.isDigit = true) (hb : b.isDigit = true) (rest : List Char) :
    readShort? (a :: b :: rest) = some (Number.ofDigits [a, b], rest) := by
  rw [readShort?, trimStart_of_isDigit ha]
  have digits : ∀ c ∈ [a, b], c.isDigit = true := by simp [ha, hb]
  exact readDigits?_append (List.cons_ne_nil a [b]) digits rest

theorem readYear?_four {a b c d : Char} (ha : a.isDigit = true) (hb : b.isDigit = true) (hc : c.isDigit = true)
    (hd : d.isDigit = true) (rest : List Char) :
    readYear? (a :: b :: c :: d :: rest) = some ((Number.ofDigits [a, b, c, d] : Int), rest) := by
  have digits : ∀ e ∈ [a, b, c, d], e.isDigit = true := by simp [ha, hb, hc, hd]
  have read := readDigits?_append (List.cons_ne_nil a [b, c, d]) digits rest
  unfold readYear?
  split
  · rename_i sign
    cases sign
    cases ha
  · rename_i sign
    cases sign
    cases ha
  · exact congrArg (Option.map _) read

/-- A date with fixed places is read up to its end, and nothing may follow it. -/
theorem readParts?_datePattern {y₁ y₂ y₃ y₄ m₁ m₂ d₁ d₂ : Char}
    (digits : ∀ c ∈ [y₁, y₂, y₃, y₄, m₁, m₂, d₁, d₂], c.isDigit = true) (p : Parts) (rest : List Char) :
    readParts? p (y₁ :: y₂ :: y₃ :: y₄ :: '-' :: m₁ :: m₂ :: '-' :: d₁ :: d₂ :: rest) datePattern =
      if rest.isEmpty then
        some { p with
          year := Number.ofDigits [y₁, y₂, y₃, y₄], month := Number.ofDigits [m₁, m₂], day := Number.ofDigits [d₁, d₂] }
      else none := by
  simp only [List.mem_cons, List.not_mem_nil, or_false, forall_eq_or_imp, forall_eq] at digits
  obtain ⟨hy₁, hy₂, hy₃, hy₄, hm₁, hm₂, hd₁, hd₂⟩ := digits
  simp only [datePattern, readParts?, Part.read?, trimStart_of_isDigit hy₁, readYear?_four hy₁ hy₂ hy₃ hy₄,
    readShort?_two hm₁ hm₂, readShort?_two hd₁ hd₂, expect?, if_true, Option.map_some]

/-- A timestamp starts with a date of fixed places and goes on. -/
theorem exists_eq_of_readTimestamp? {cs : List Char} {t : DateTime} (h : readTimestamp? cs = some t) :
    ∃ y₁ y₂ y₃ y₄ m₁ m₂ d₁ d₂ c rest, (∀ x ∈ [y₁, y₂, y₃, y₄, m₁, m₂, d₁, d₂], x.isDigit = true) ∧
      cs = y₁ :: y₂ :: y₃ :: y₄ :: '-' :: m₁ :: m₂ :: '-' :: d₁ :: d₂ :: c :: rest := by
  obtain ⟨⟨year, afterYear⟩, hyear, dashed⟩ := Option.bind_eq_some_iff.1 h
  obtain ⟨_, hdash, further⟩ := Option.bind_eq_some_iff.1 dashed
  obtain ⟨⟨month, afterMonth⟩, hmonth, dashedTwice⟩ := Option.bind_eq_some_iff.1 further
  obtain ⟨_, hdash', furthest⟩ := Option.bind_eq_some_iff.1 dashedTwice
  obtain ⟨⟨day, afterDay⟩, hday, timed⟩ := Option.bind_eq_some_iff.1 furthest
  obtain ⟨y₁, y₂, y₃, y₄, hy₁, hy₂, hy₃, hy₄, rfl⟩ := readFour?_eq_some hyear
  obtain rfl := expect?_eq_some hdash
  obtain ⟨m₁, m₂, hm₁, hm₂, rfl⟩ := readTwo?_eq_some hmonth
  obtain rfl := expect?_eq_some hdash'
  obtain ⟨d₁, d₂, hd₁, hd₂, rfl⟩ := readTwo?_eq_some hday
  cases afterDay with
  | nil => cases timed
  | cons c rest =>
    exact ⟨y₁, y₂, y₃, y₄, m₁, m₂, d₁, d₂, c, rest, by simp [hy₁, hy₂, hy₃, hy₄, hm₁, hm₂, hd₁, hd₂], rfl⟩

theorem readPlain?_of_readTimestamp? {cs : List Char} {t : DateTime} (h : readTimestamp? cs = some t) :
    Date.readPlain? cs = none := by
  obtain ⟨y₁, y₂, y₃, y₄, m₁, m₂, d₁, d₂, c, rest, digits, rfl⟩ := exists_eq_of_readTimestamp? h
  rw [Date.readPlain?, readPattern?, readParts?_datePattern digits]
  rfl

/-- What a longer pattern reads after a shorter one has used up the text. -/
theorem readParts?_append {pattern : List Part} {p q : Parts} {cs : List Char}
    (h : readParts? p cs pattern = some q) (more : List Part) :
    readParts? p cs (pattern ++ more) = readParts? q [] more := by
  induction pattern generalizing p cs with
  | nil =>
    by_cases done : cs.isEmpty = true
    · rw [readParts?, if_pos done] at h
      cases h
      rw [List.isEmpty_iff.1 done]
      rfl
    · rw [readParts?, if_neg done] at h
      cases h
  | cons part pattern ih =>
    rw [List.cons_append, readParts?]
    rw [readParts?] at h
    split at h
    · exact ih h
    · cases h

theorem readPattern?_of_readPlain? {cs : List Char} {d : Date} (h : Date.readPlain? cs = some d)
    {pattern : List Part} (listed : pattern ∈ dateTimePatterns) : readPattern? pattern cs = none := by
  obtain ⟨t, read, -⟩ := Option.map_eq_some_iff.1 h
  obtain ⟨q, parts, -⟩ := Option.bind_eq_some_iff.1 read
  suffices stopped : readParts? ⟨0, 0, 0, 0, 0, 0, 0⟩ cs pattern = none by
    rw [readPattern?, stopped]
    rfl
  simp only [dateTimePatterns, List.mem_cons, List.not_mem_nil, or_false] at listed
  rcases listed with rfl | rfl | rfl | rfl <;> exact readParts?_append parts _

end RecordFilter.Calendar

namespace RecordFilter

theorem Date.read?_eq (cs : List Char) : Date.read? cs = (DateTime.read? cs).map (·.date) := by
  rw [read?]
  cases plain : readPlain? (Text.trim cs) with
  | none => rfl
  | some d =>
    have untimed : Calendar.readTimestamp? (Text.trim cs) = none := by
      cases read : Calendar.readTimestamp? (Text.trim cs) with
      | none => rfl
      | some t =>
        rw [Calendar.readPlain?_of_readTimestamp? read] at plain
        cases plain
    have unpatterned :
        Calendar.dateTimePatterns.findSome? (Calendar.readPattern? · (Text.trim cs)) = none :=
      List.findSome?_eq_none_iff.2 fun pattern listed => Calendar.readPattern?_of_readPlain? plain listed
    rw [DateTime.read?, untimed, unpatterned, plain]
    rfl

end RecordFilter
