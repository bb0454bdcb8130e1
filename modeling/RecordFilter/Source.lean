import RecordFilter.Error
import RecordFilter.Predicate.Basic
import RecordFilter.Record.Order

set_option autoImplicit false

/-!
# Record sources

Whatever can give the records that match a predicate. A source may change its state with every call. The state holds
the flag by which runs are cancelled, so a call may raise it too.
-/

namespace RecordFilter

structure Source (σ α : Type) where
  matching : Predicate → σ → Except Stop (List α) × σ
  /-- How many records match. -/
  count : Predicate → σ → Except Stop Nat × σ
  /-- The matches in order, without the first `skip` of them and no more than `take`. -/
  window : Predicate → List OrderKey → (skip take : Nat) → σ → Except Stop (List α) × σ
  /-- Whether the flag is raised. -/
  isCancelled : σ → Bool
  /-- Raises the flag. -/
  cancel : σ → σ

namespace Source

variable {σ α : Type}

def ask (source : Source σ α) (p : Predicate) (s : σ) : Except Stop (List α) × σ :=
  if source.isCancelled s then (.error (.failed .cancelled), s) else source.matching p s

variable [HasFields α] [Sorter]

def ofMatching (matching : Predicate → σ → Except Stop (List α) × σ) (isCancelled : σ → Bool) (cancel : σ → σ) :
    Source σ α where
  matching := matching
  count p s :=
    let (result, s) := matching p s
    (result.map List.length, s)
  window p orders skip take s :=
    let (result, s) := matching p s
    (result >>= fun as => (orderRecords orders as).map fun sorted => (sorted.drop skip).take take, s)
  isCancelled := isCancelled
  cancel := cancel

/-- The records of a list; its state is the flag and nothing else, and its calls leave it alone. -/
def memory (records : List α) : Source Bool α :=
  { ofMatching (fun p s => (.ok (records.filter fun a => p.accepts a), s)) id (fun _ => true) with
    count := fun p s =>
      (.ok (if p.isAlways then records.length else records.countP fun a => p.accepts a), s) }

end Source

end RecordFilter
