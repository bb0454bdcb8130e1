import RecordFilter.Bench

set_option autoImplicit false

/-!
# Captures

A thread keeps the lines that are reported on it while a capture is live. It has one buffer for all of its captures:
starting a capture clears the buffer, and ending any of them ends the keeping of lines. No thread keeps the lines of
another.
-/

namespace RecordFilter

structure CaptureThread where
  /-- The names of the live captures. -/
  live : List String
  /-- The lines kept, if lines are kept. -/
  buffer : Option (List String)

namespace CaptureThread

def start : CaptureThread := ⟨[], none⟩

def emit (t : CaptureThread) (line : String) : CaptureThread := { t with buffer := t.buffer.map (· ++ [line]) }

/-- Starts a capture under a name; one that had the name before ends after the new one has started. -/
def capture (t : CaptureThread) (name : String) : CaptureThread :=
  if name ∈ t.live then { t with buffer := none } else ⟨name :: t.live, some []⟩

def drop (t : CaptureThread) (name : String) : Bool × CaptureThread :=
  if name ∈ t.live then (true, ⟨t.live.filter (· ≠ name), none⟩) else (false, t)

def lines (t : CaptureThread) : List String := t.buffer.getD []

def take (t : CaptureThread) : List String × CaptureThread :=
  (t.lines, { t with buffer := t.buffer.map fun _ => [] })

def records (t : CaptureThread) (component : String) : List Json := t.lines.filterMap (Bench.record? component)

end CaptureThread

structure CaptureThreads where
  thread : Nat → CaptureThread

namespace CaptureThreads

def start : CaptureThreads := ⟨fun _ => .start⟩

def set (ts : CaptureThreads) (i : Nat) (t : CaptureThread) : CaptureThreads :=
  ⟨fun j => if j = i then t else ts.thread j⟩

def emit (ts : CaptureThreads) (i : Nat) (line : String) : CaptureThreads := ts.set i ((ts.thread i).emit line)

theorem thread_set_self (ts : CaptureThreads) (i : Nat) (t : CaptureThread) : (ts.set i t).thread i = t := by
  simp [set]

theorem thread_set_of_ne (ts : CaptureThreads) {i j : Nat} (h : j ≠ i) (t : CaptureThread) :
    (ts.set i t).thread j = ts.thread j := by
  simp [set, h]

end CaptureThreads

end RecordFilter
