import RecordFilter.Segment.Fold
import RecordFilter.Source

set_option autoImplicit false

namespace RecordFilter

structure Run (σ α : Type) where
  result : Except Stop (Page α)
  events : List RunEvent
  /-- The sort value and the number of matches of each set, where the run tells them. -/
  matched : List (Int64 × Nat)
  state : σ

namespace CompiledSegment

variable {σ α : Type} [HasFields α] [Sorter]

def bounds (c : CompiledSegment) (total : Nat) : Nat × Nat :=
  match c.page with
  | some w => (w.skip, w.take)
  | none => (0, total)

def finish (c : CompiledSegment) (combined : List α) : Except Stop (Page α) :=
  (orderRecords c.orders combined).map fun sorted =>
    let (skip, take) := c.bounds combined.length
    Page.of c.page combined.length ((sorted.drop skip).take take)

def finished (c : CompiledSegment) (page : Page α) : RunEvent :=
  .finished c.sets.length page.total page.data.length

def stopped (stop : Stop) (s : σ) : Run σ α := ⟨.error stop, [], [], s⟩

def conclude (c : CompiledSegment) (subsets : List (List α)) (matched : List (Int64 × Nat)) (s : σ) : Run σ α :=
  match Fold.run c.key (c.sets.zip subsets) with
  | (events, .error e) => ⟨.error (.failed e), events, matched, s⟩
  | (events, .ok combined) =>
    match c.finish combined with
    | .error stop => ⟨.error stop, events, matched, s⟩
    | .ok page => ⟨.ok page, events ++ [c.finished page], matched, s⟩

/-- Asks for the matches of one set after another, up to the first call that gives none. -/
def collect (source : Source σ α) : List CompiledSet → σ → Except Stop (List (List α)) × σ
  | [], s => (.ok [], s)
  | set :: sets, s =>
    match source.ask set.predicate s with
    | (.error stop, s) => (.error stop, s)
    | (.ok as, s) =>
      match collect source sets s with
      | (.error stop, s) => (.error stop, s)
      | (.ok subsets, s) => (.ok (as :: subsets), s)

/-- Without any set, all records are the result; the source counts and cuts them itself. -/
def executeAll (c : CompiledSegment) (source : Source σ α) (s : σ) : Run σ α :=
  if source.isCancelled s then stopped (.failed .cancelled) s
  else
    match source.count .always s with
    | (.error stop, s) => stopped stop s
    | (.ok total, s) =>
      match source.window .always c.orders (c.bounds total).1 (c.bounds total).2 s with
      | (.error stop, s) => stopped stop s
      | (.ok data, s) =>
        let page := Page.of c.page total data
        ⟨.ok page, [c.finished page], [], s⟩

def execute (c : CompiledSegment) (source : Source σ α) (s : σ) : Run σ α :=
  if c.sets.isEmpty then c.executeAll source s
  else
    match collect source c.sets s with
    | (.error stop, s) => stopped stop s
    | (.ok subsets, s) =>
      c.conclude subsets (List.zipWith (fun set (as : List α) => (set.sort, as.length)) c.sets subsets) s

/-- Runs the sets one after another over a source that is waited for, of which nothing but matches are asked. -/
def executeAsync (c : CompiledSegment) (source : Source σ α) (s : σ) : Run σ α :=
  if c.sets.isEmpty then
    match source.ask .always s with
    | (.error stop, s) => stopped stop s
    | (.ok records, s) =>
      match c.finish records with
      | .error stop => stopped stop s
      | .ok page => ⟨.ok page, [c.finished page], [], s⟩
  else
    match collect source c.sets s with
    | (.error stop, s) => stopped stop s
    | (.ok subsets, s) => c.conclude subsets [] s

end CompiledSegment

end RecordFilter
