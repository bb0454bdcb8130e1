import RecordFilter.Segment.Run

set_option autoImplicit false

/-!
# Running segments with workers

A worker for each condition set looks at the cancellation flag and then calls the source. How the workers' steps
follow one another, and when somebody else raises the flag, is up to a schedule. The run waits for the workers in the
order of the sets.
-/

namespace RecordFilter

inductive Worker (α : Type) where
  /-- It has yet to look at the flag. -/
  | waiting
  /-- The flag was down, and it has yet to call the source. -/
  | admitted
  | ended (outcome : Except Stop (List α))

/-- One entry of a schedule: a worker's next step, or the raising of the flag. -/
inductive WorkerStep where
  | advance (worker : Nat)
  | cancel
deriving DecidableEq

namespace Worker

variable {σ α : Type}

def advance (source : Source σ α) (set : CompiledSet) : Worker α → σ → Worker α × σ
  | waiting, s => (if source.isCancelled s then ended (.error (.failed .cancelled)) else admitted, s)
  | admitted, s =>
    let (outcome, s) := source.matching set.predicate s
    (ended outcome, s)
  | ended outcome, s => (ended outcome, s)

def advanceAt (source : Source σ α) (i : Nat) :
    List (CompiledSet × Worker α) → σ → List (CompiledSet × Worker α) × σ
  | [], s => ([], s)
  | (set, w) :: ws, s =>
    match i with
    | 0 =>
      let (w, s) := w.advance source set s
      ((set, w) :: ws, s)
    | i + 1 =>
      let (ws, s) := advanceAt source i ws s
      ((set, w) :: ws, s)

def follow (source : Source σ α) :
    List WorkerStep → List (CompiledSet × Worker α) → σ → List (CompiledSet × Worker α) × σ
  | [], ws, s => (ws, s)
  | .cancel :: steps, ws, s => follow source steps ws (source.cancel s)
  | .advance i :: steps, ws, s =>
    let (ws, s) := advanceAt source i ws s
    follow source steps ws s

def complete (source : Source σ α) (set : CompiledSet) : Worker α → σ → Except Stop (List α) × σ
  | waiting, s => source.ask set.predicate s
  | admitted, s => source.matching set.predicate s
  | ended outcome, s => (outcome, s)

def completeAll (source : Source σ α) : List (CompiledSet × Worker α) → σ → List (Except Stop (List α)) × σ
  | [], s => ([], s)
  | (set, w) :: ws, s =>
    let (outcome, s) := w.complete source set s
    let (outcomes, s) := completeAll source ws s
    (outcome :: outcomes, s)

end Worker

namespace CompiledSegment

variable {σ α : Type} [HasFields α] [Sorter]

def reported : Stop → FilterError
  | .failed e => e
  | .panicked => .source "condition set worker panicked"

def isPanic : Except Stop (List α) → Bool
  | .error .panicked => true
  | _ => false

/-- Waits for the workers in order, up to the first that brings no records. If one after it has panicked, nobody has
waited for that one, and its panic goes on. -/
def join : List (Except Stop (List α)) → Except Stop (List (List α))
  | [] => .ok []
  | .ok as :: rest => (join rest).map (as :: ·)
  | .error stop :: rest => if rest.any isPanic then .error .panicked else .error (.failed (reported stop))

def concludeWorkers (c : CompiledSegment) (outcomes : List (Except Stop (List α))) (s : σ) : Run σ α :=
  match join outcomes with
  | .error stop => stopped stop s
  | .ok subsets => c.conclude subsets [] s

/-- Runs with a worker for each set; a single set needs none. Workers that the schedule leaves on the way go on after
it, one after another. -/
def executeParallel (c : CompiledSegment) (source : Source σ α) (schedule : List WorkerStep) (s : σ) : Run σ α :=
  if c.sets.length < 2 then c.execute source s
  else
    let (workers, s) := Worker.follow source schedule (c.sets.map fun set => (set, .waiting)) s
    let (outcomes, s) := Worker.completeAll source workers s
    c.concludeWorkers outcomes s

end CompiledSegment

end RecordFilter
