import RecordFilter.Calendar.Date
import RecordFilter.Number.Power

set_option autoImplicit false

namespace RecordFilter

structure Time where
  hour : Nat
  minute : Nat
  second : Nat
  nanosecond : Nat
  hour_lt : hour < 24
  minute_lt : minute < 60
  second_le : second ≤ 60
  nanosecond_lt : nanosecond < 10 ^ 9
deriving DecidableEq

namespace Time

def of? (hour minute second nanosecond : Nat) : Option Time :=
  if h : hour < 24 ∧ minute < 60 ∧ second ≤ 60 ∧ nanosecond < 10 ^ 9 then
    some ⟨hour, minute, second, nanosecond, h.1, h.2.1, h.2.2.1, h.2.2.2⟩
  else none

theorem of?_eq_some_iff {h m s n : Nat} {t : Time} :
    of? h m s n = some t ↔ t.hour = h ∧ t.minute = m ∧ t.second = s ∧ t.nanosecond = n := by
  unfold of?
  constructor
  · intro e
    split at e
    · cases e; exact ⟨rfl, rfl, rfl, rfl⟩
    · cases e
  · rintro ⟨rfl, rfl, rfl, rfl⟩
    rw [dif_pos ⟨t.hour_lt, t.minute_lt, t.second_le, t.nanosecond_lt⟩]

def midnight : Time := ⟨0, 0, 0, 0, by decide, by decide, by decide, by decide⟩

def compare (a b : Time) : Ordering :=
  (Ord.compare a.hour b.hour).then ((Ord.compare a.minute b.minute).then
    ((Ord.compare a.second b.second).then (Ord.compare a.nanosecond b.nanosecond)))

/-- Nothing for whole seconds, else the fewest of three, six or nine digits after a point. -/
def fractionText (nanosecond : Nat) : List Char :=
  if nanosecond = 0 then []
  else if nanosecond % 10 ^ 6 = 0 then '.' :: Number.padded 3 (nanosecond / 10 ^ 6)
  else if nanosecond % 10 ^ 3 = 0 then '.' :: Number.padded 6 (nanosecond / 10 ^ 3)
  else '.' :: Number.padded 9 nanosecond

def text (t : Time) : List Char :=
  Number.padded 2 t.hour ++ ':' :: Number.padded 2 t.minute ++ ':' :: Number.padded 2 t.second ++
    fractionText t.nanosecond

end Time

structure DateTime where
  date : Date
  time : Time
deriving DecidableEq

namespace DateTime

def compare (a b : DateTime) : Ordering := (a.date.compare b.date).then (a.time.compare b.time)

/-- The same moment on a clock that is `offset` minutes behind; an offset is less than a day. -/
def back? (t : DateTime) (offset : Int) : Option DateTime := do
  let minutes : Int := 60 * t.time.hour + t.time.minute - offset
  let date ← if minutes < 0 then t.date.previous? else if minutes < 1440 then some t.date else t.date.next?
  let ofDay := (minutes % 1440).toNat
  let time ← Time.of? (ofDay / 60) (ofDay % 60) t.time.second t.time.nanosecond
  some ⟨date, time⟩

def text (t : DateTime) : List Char := t.date.text ++ ' ' :: t.time.text

end DateTime

def Date.midnight (d : Date) : DateTime := ⟨d, .midnight⟩

end RecordFilter
