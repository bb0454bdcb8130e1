import RecordFilter.Literal
import RecordFilter.Proofs.Calendar.Reading

set_option autoImplicit false

namespace RecordFilter

variable {t u : DateTime}

theorem DateTime.compare_date_of_lt (h : t.compare u = .lt) : t.date.compare u.date ≠ .gt := by
  intro later
  rw [compare, later] at h
  cases h

theorem DateTime.compare_date_of_gt (h : t.compare u = .gt) : t.date.compare u.date ≠ .lt := by
  intro earlier
  rw [compare, earlier] at h
  cases h

namespace Value

theorem asDate?_eq (v : Value) : v.asDate? = v.asDateTime?.map (·.date) := by
  cases v with
  | text s => exact Date.read?_eq s.toList
  | _ => rfl

theorem exists_compareLiteral?_date {v : Value} {order : Ordering} {foldCase : Bool}
    (h : v.compareLiteral? (.dateTime u) foldCase = some order) :
    ∃ t : DateTime, t.compare u = order ∧
      v.compareLiteral? (.date u.date) foldCase = some (t.date.compare u.date) := by
  obtain ⟨t, taken, compared⟩ := Option.map_eq_some_iff.1 h
  refine ⟨t, compared, ?_⟩
  rw [compareLiteral?, asDate?_eq, taken]
  rfl

/-- The date of every value is its date-time without the time of day. Hence a value before a date-time is not after its
date, and a value after it is not before its date. -/
theorem asDate?_truncates (v : Value) :
    v.asDate? = v.asDateTime?.map (·.date) ∧ (v.asDate? = none ↔ v.asDateTime? = none) ∧
      ∀ (u : DateTime) (foldCase : Bool),
        (v.compareLiteral? (.dateTime u) foldCase = some .lt →
          ∃ order, v.compareLiteral? (.date u.date) foldCase = some order ∧ order ≠ .gt) ∧
        (v.compareLiteral? (.dateTime u) foldCase = some .gt →
          ∃ order, v.compareLiteral? (.date u.date) foldCase = some order ∧ order ≠ .lt) := by
  refine ⟨v.asDate?_eq, ?_, fun u foldCase => ⟨?_, ?_⟩⟩
  · rw [v.asDate?_eq, Option.map_eq_none_iff]
  · intro before
    obtain ⟨t, compared, dated⟩ := exists_compareLiteral?_date before
    exact ⟨_, dated, DateTime.compare_date_of_lt compared⟩
  · intro after
    obtain ⟨t, compared, dated⟩ := exists_compareLiteral?_date after
    exact ⟨_, dated, DateTime.compare_date_of_gt compared⟩

def evening : Value := text "2024-05-01T23:30:00-02:00"

def dayAfter : Date := ⟨2024, 5, 2, by decide, by decide, by decide, by decide, by decide, by decide⟩

def noon : Time := { Time.midnight with hour := 12, hour_lt := by decide }

/-- The evening belongs to the next day, between its midnight and its noon. -/
theorem evening_truncates :
    evening.asDate? = some dayAfter ∧
      (evening.compareLiteral? (.dateTime ⟨dayAfter, noon⟩) false = some .lt ∧
        ∃ order, evening.compareLiteral? (.date dayAfter) false = some order ∧ order ≠ .gt) ∧
      evening.compareLiteral? (.dateTime dayAfter.midnight) false = some .gt ∧
        ∃ order, evening.compareLiteral? (.date dayAfter) false = some order ∧ order ≠ .lt := by
  obtain ⟨dated, -, compared⟩ := asDate?_truncates evening
  have before : evening.compareLiteral? (.dateTime ⟨dayAfter, noon⟩) false = some .lt := by decide +kernel
  have after : evening.compareLiteral? (.dateTime dayAfter.midnight) false = some .gt := by decide +kernel
  refine ⟨?_, ⟨before, (compared ⟨dayAfter, noon⟩ false).1 before⟩, after, (compared dayAfter.midnight false).2 after⟩
  rw [dated]
  decide +kernel

end Value

end RecordFilter
