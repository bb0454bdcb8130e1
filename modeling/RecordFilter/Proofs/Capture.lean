import Mathlib.Logic.Function.Basic
import Mathlib.Data.List.Infix
import RecordFilter.Capture

set_option autoImplicit false

/-!
# What captures are owed

A capture is owed the lines that were reported on its own thread since it was started or last taken from. Beside the
one buffer of a thread stands a ledger of what each of its live captures is owed. Whatever is done on the threads, what
a thread keeps ends what each of its captures is owed. As long as no capture has ended since the last one started, it is
all that some capture is owed; afterwards it is nothing. Captures that do not overlap get all that they are owed.
-/

namespace RecordFilter

/-- What can be done on a thread. Only a live capture can be read, taken from or ended. -/
inductive CaptureStep where
  | start (name : String)
  | drop (name : String)
  | read (name : String)
  | take (name : String)
  | emit (line : String)

def CaptureThread.act (t : CaptureThread) : CaptureStep → CaptureThread
  | .start name => t.capture name
  | .drop name => (t.drop name).2
  | .read _ => t
  | .take name => if name ∈ t.live then t.take.2 else t
  | .emit line => t.emit line

namespace CaptureThreads

def act (ts : CaptureThreads) (i : Nat) (step : CaptureStep) : CaptureThreads := ts.set i ((ts.thread i).act step)

def run (ts : CaptureThreads) (steps : List (Nat × CaptureStep)) : CaptureThreads :=
  steps.foldl (fun ts step => ts.act step.1 step.2) ts

end CaptureThreads

structure CaptureLedger where
  /-- The lines that each live capture is owed. -/
  owed : String → Option (List String)
  /-- Whether a capture has ended since the last one started. -/
  ended : Bool

namespace CaptureLedger

def start : CaptureLedger := ⟨fun _ => none, false⟩

/-- A capture that takes the name of a live one ends that one right after it has started itself. -/
def act (l : CaptureLedger) : CaptureStep → CaptureLedger
  | .start name => ⟨Function.update l.owed name (some []), (l.owed name).isSome⟩
  | .drop name => if (l.owed name).isSome then ⟨Function.update l.owed name none, true⟩ else l
  | .read _ => l
  | .take name => { l with owed := Function.update l.owed name ((l.owed name).map fun _ => []) }
  | .emit line => { l with owed := fun name => (l.owed name).map (· ++ [line]) }

def after (i : Nat) (steps : List (Nat × CaptureStep)) : CaptureLedger :=
  (steps.filter (·.1 = i)).foldl (fun l step => l.act step.2) start

end CaptureLedger

structure CaptureThread.Keeps (t : CaptureThread) (l : CaptureLedger) : Prop where
  mem_live : ∀ name, name ∈ t.live ↔ (l.owed name).isSome
  /-- Nothing is kept after a capture has ended. -/
  stopped : l.ended = true → t.buffer = none
  /-- Until then some capture has all it is owed. -/
  served : l.ended = false → ∀ name ∈ t.live, ∃ other own, l.owed other = some own ∧ t.buffer = some own
  /-- What is kept is the latest of what any capture is owed. -/
  latest : ∀ kept, t.buffer = some kept → ∀ name own, l.owed name = some own → kept <:+ own

namespace CaptureThread

variable {t : CaptureThread} {l : CaptureLedger}

/-- A change to what one capture is owed needs a look at that capture only. -/
theorem mem_live_update {live later : List String} {owed : String → Option (List String)} {name : String}
    (own : Option (List String)) (before : ∀ other, other ∈ live ↔ (owed other).isSome)
    (here : name ∈ later ↔ own.isSome) (elsewhere : ∀ other ≠ name, other ∈ later ↔ other ∈ live) (other : String) :
    other ∈ later ↔ (Function.update owed name own other).isSome := by
  by_cases same : other = name
  · subst same
    rw [Function.update_self, here]
  · rw [Function.update_of_ne same, elsewhere other same, before]

theorem keeps_start : start.Keeps .start where
  mem_live name := by simp [start, CaptureLedger.start]
  stopped ended := by cases ended
  served _ name live := by cases live
  latest kept buffer := by cases buffer

namespace Keeps

theorem of_ended {live : List String} {owed : String → Option (List String)}
    (mem_live : ∀ name, name ∈ live ↔ (owed name).isSome) : Keeps ⟨live, none⟩ ⟨owed, true⟩ where
  mem_live := mem_live
  stopped _ := rfl
  served fresh := by cases fresh
  latest kept buffer := by cases buffer

/-- An empty buffer holds all that one capture is owed, which is nothing. -/
theorem of_empty {live : List String} {owed : String → Option (List String)} (name : String)
    (mem_live : ∀ name, name ∈ live ↔ (owed name).isSome) (cleared : owed name = some []) :
    Keeps ⟨live, some []⟩ ⟨owed, false⟩ where
  mem_live := mem_live
  stopped ended := by cases ended
  served _ _ _ := ⟨name, [], cleared, rfl⟩
  latest kept buffer _ own _ := by
    cases buffer
    exact List.nil_suffix

theorem capture (h : t.Keeps l) (name : String) : (t.capture name).Keeps (l.act (.start name)) := by
  by_cases live : name ∈ t.live
  · have known := (h.mem_live name).1 live
    rw [CaptureThread.capture, if_pos live, CaptureLedger.act, known]
    exact of_ended (mem_live_update _ h.mem_live (by simp [live]) fun _ _ => Iff.rfl)
  · have unknown : (l.owed name).isSome = false := by
      rw [← Bool.not_eq_true, ← h.mem_live]
      exact live
    rw [CaptureThread.capture, if_neg live, CaptureLedger.act, unknown]
    refine of_empty name (mem_live_update _ h.mem_live (by simp) fun other different => ?_) (Function.update_self ..)
    rw [List.mem_cons, or_iff_right different]

theorem drop (h : t.Keeps l) (name : String) : (t.drop name).2.Keeps (l.act (.drop name)) := by
  by_cases live : name ∈ t.live
  · have known := (h.mem_live name).1 live
    rw [CaptureThread.drop, if_pos live, CaptureLedger.act, if_pos known]
    refine of_ended (mem_live_update _ h.mem_live (by simp) fun other different => ?_)
    rw [List.mem_filter, decide_eq_true_eq, and_iff_left different]
  · have unknown := mt (h.mem_live name).2 live
    rw [CaptureThread.drop, if_neg live, CaptureLedger.act, if_neg unknown]
    exact h

/-- Taking clears the buffer for all captures, but gives its lines to one of them. -/
theorem take (h : t.Keeps l) {name : String} (live : name ∈ t.live) : t.take.2.Keeps (l.act (.take name)) := by
  have mem_live := mem_live_update ((l.owed name).map fun _ => []) h.mem_live
    (by rw [Option.isSome_map, h.mem_live]) fun _ _ => Iff.rfl
  cases stage : l.ended with
  | true =>
    have stopped : t.take.2 = ⟨t.live, none⟩ := by rw [CaptureThread.take, h.stopped stage, Option.map_none]
    rw [stopped, CaptureLedger.act, stage]
    exact of_ended mem_live
  | false =>
    obtain ⟨other, own, -, buffer⟩ := h.served stage name live
    have cleared : t.take.2 = ⟨t.live, some []⟩ := by rw [CaptureThread.take, buffer, Option.map_some]
    obtain ⟨before, known⟩ := Option.isSome_iff_exists.1 ((h.mem_live name).1 live)
    rw [cleared, CaptureLedger.act, stage]
    refine of_empty name mem_live ?_
    rw [Function.update_self, known, Option.map_some]

theorem emit (h : t.Keeps l) (line : String) : (t.emit line).Keeps (l.act (.emit line)) where
  mem_live name := by
    rw [CaptureLedger.act, Option.isSome_map]
    exact h.mem_live name
  stopped ended := by rw [CaptureThread.emit, h.stopped ended, Option.map_none]
  served fresh name live := by
    obtain ⟨other, own, owed, buffer⟩ := h.served fresh name live
    refine ⟨other, own ++ [line], congrArg (Option.map (· ++ [line])) owed, ?_⟩
    rw [CaptureThread.emit, buffer, Option.map_some]
  latest kept buffer name own owed := by
    obtain ⟨lines, before, rfl⟩ := Option.map_eq_some_iff.1 buffer
    obtain ⟨its, known, rfl⟩ := Option.map_eq_some_iff.1 owed
    obtain ⟨earlier, rfl⟩ := h.latest lines before name its known
    exact ⟨earlier, (List.append_assoc ..).symm⟩

/-- Every step on a thread is matched by its ledger. -/
theorem act (h : t.Keeps l) (step : CaptureStep) : (t.act step).Keeps (l.act step) := by
  cases step with
  | start name => exact h.capture name
  | drop name => exact h.drop name
  | read name => exact h
  | emit line => exact h.emit line
  | take name =>
    by_cases live : name ∈ t.live
    · rw [CaptureThread.act, if_pos live]
      exact h.take live
    · have unknown : l.owed name = none := by
        rw [← Option.not_isSome_iff_eq_none, ← h.mem_live]
        exact live
      have same : l.act (.take name) = l := by
        rw [CaptureLedger.act, unknown, Option.map_none, ← unknown, Function.update_eq_self]
      rw [CaptureThread.act, if_neg live, same]
      exact h

theorem suffix_lines (h : t.Keeps l) {name : String} {own : List String} (owed : l.owed name = some own) :
    t.lines <:+ own := by
  rw [lines]
  cases buffer : t.buffer with
  | none => exact List.nil_suffix
  | some kept => exact h.latest kept buffer name own owed

/-- A capture has all that it is owed if that is nothing, or if none has ended and no other is owed less. -/
theorem lines_eq_iff (h : t.Keeps l) {name : String} {own : List String} (owed : l.owed name = some own) :
    t.lines = own ↔
      own = [] ∨ l.ended = false ∧ ∀ other its, l.owed other = some its → own <:+ its := by
  have live : name ∈ t.live := by
    rw [h.mem_live, owed]
    rfl
  constructor
  · intro whole
    cases buffer : t.buffer with
    | none =>
      rw [lines, buffer] at whole
      exact .inl whole.symm
    | some kept =>
      rw [lines, buffer] at whole
      have going : l.ended = false := by
        rw [← Bool.not_eq_true]
        intro ended
        rw [h.stopped ended] at buffer
        cases buffer
      exact .inr ⟨going, whole ▸ h.latest kept buffer⟩
  · rintro (rfl | ⟨going, least⟩)
    · exact List.suffix_nil.1 (h.suffix_lines owed)
    · obtain ⟨other, its, known, buffer⟩ := h.served going name live
      have kept : t.lines = its := congrArg (Option.getD · []) buffer
      have ends := h.suffix_lines owed
      rw [kept] at ends ⊢
      exact ends.sublist.antisymm (least other its known).sublist

end Keeps

end CaptureThread

namespace CaptureThreads

/-- Of all that is done, only what is done on a thread itself changes what it keeps. -/
theorem keeps_run {ts : CaptureThreads} {i : Nat} {l : CaptureLedger} (h : (ts.thread i).Keeps l)
    (steps : List (Nat × CaptureStep)) :
    ((ts.run steps).thread i).Keeps ((steps.filter (·.1 = i)).foldl (fun l step => l.act step.2) l) := by
  induction steps generalizing ts l with
  | nil => exact h
  | cons step steps ih =>
    obtain ⟨j, step⟩ := step
    change ((run (ts.act j step) steps).thread i).Keeps _
    by_cases same : j = i
    · subst same
      rw [List.filter_cons_of_pos (by simp)]
      refine ih ?_
      rw [act, thread_set_self]
      exact h.act step
    · rw [List.filter_cons_of_neg (by simp [same])]
      refine ih ?_
      rw [act, ts.thread_set_of_ne (Ne.symm same)]
      exact h

theorem keeps_after (i : Nat) (steps : List (Nat × CaptureStep)) :
    ((start.run steps).thread i).Keeps (.after i steps) :=
  keeps_run CaptureThread.keeps_start steps

/-- Reading or taking from a live capture gives the end of the lines that it is owed. It gives all of them just if there
are none, or if no capture on its thread has ended since the last one started and no other one is owed less. -/
theorem lines_run (steps : List (Nat × CaptureStep)) (i : Nat) {t : CaptureThread} {l : CaptureLedger}
    (reached : (start.run steps).thread i = t) (ledger : CaptureLedger.after i steps = l) :
    (∀ name, name ∈ t.live ↔ (l.owed name).isSome) ∧
      (l.ended = true → t.lines = []) ∧
      (l.ended = false → ∀ name ∈ t.live, ∃ other, l.owed other = some t.lines) ∧
      ∀ name own, l.owed name = some own →
        t.lines <:+ own ∧
          (t.lines = own ↔
            own = [] ∨ l.ended = false ∧ ∀ other its, l.owed other = some its → own <:+ its) := by
  have keeps : t.Keeps l := by
    rw [← reached, ← ledger]
    exact keeps_after i steps
  refine ⟨keeps.mem_live, fun ended => ?_, fun going name live => ?_, fun name own owed => ?_⟩
  · rw [CaptureThread.lines, keeps.stopped ended]
    rfl
  · obtain ⟨other, own, owed, buffer⟩ := keeps.served going name live
    rw [CaptureThread.lines, buffer]
    exact ⟨other, owed⟩
  · exact ⟨keeps.suffix_lines owed, keeps.lines_eq_iff owed⟩

def nested : List (Nat × CaptureStep) :=
  [(0, .start "a"), (0, .emit "x"), (0, .start "b"), (1, .emit "z"), (0, .emit "y"), (0, .read "b")]

theorem lines_run_nested :
    (CaptureLedger.after 0 nested).owed "a" = some ["x", "y"] ∧ (CaptureLedger.after 0 nested).owed "b" = some ["y"] ∧
      ((start.run nested).thread 0).lines = ["y"] := by
  obtain ⟨-, -, -, owing⟩ := lines_run nested 0 rfl rfl
  obtain ⟨-, whole⟩ := owing "b" ["y"] rfl
  refine ⟨rfl, rfl, whole.2 (.inr ⟨rfl, fun other its owed => ?_⟩)⟩
  by_cases second : other = "b"
  · subst second
    cases owed
    exact List.suffix_rfl
  by_cases first : other = "a"
  · subst first
    cases owed
    exact ⟨["x"], rfl⟩
  · simp [CaptureLedger.after, nested, CaptureLedger.act, CaptureLedger.start, first, second] at owed

/-- Ending the one capture keeps the last line from the other. -/
theorem lines_run_ended :
    let steps := [(0, .start "a"), (0, .start "b"), (0, .drop "a"), (0, .emit "x")]
    "b" ∈ ((start.run steps).thread 0).live ∧ (CaptureLedger.after 0 steps).owed "b" = some ["x"] ∧
      ((start.run steps).thread 0).lines ≠ ["x"] := by
  decide

end CaptureThreads

namespace CaptureLedger

/-- Each capture on a thread starts when no other is live there. -/
def IsApart (i : Nat) (steps : List (Nat × CaptureStep)) : Prop :=
  ∀ before name rest, steps = before ++ (i, .start name) :: rest → ∀ other, (after i before).owed other = none

/-- No more than one capture is live, and none has ended since it started. -/
def IsAlone (l : CaptureLedger) : Prop :=
  ∀ name, (l.owed name).isSome → l.ended = false ∧ ∀ other, (l.owed other).isSome → other = name

theorem after_append (i j : Nat) (steps : List (Nat × CaptureStep)) (step : CaptureStep) :
    after i (steps ++ [(j, step)]) = if j = i then (after i steps).act step else after i steps := by
  rw [after, List.filter_append, List.foldl_append]
  by_cases same : j = i <;> simp [same, after]

namespace IsAlone

variable {l : CaptureLedger}

theorem of_owed {l' : CaptureLedger} (h : l.IsAlone) (ended : l'.ended = l.ended)
    (owed : ∀ name, (l'.owed name).isSome = (l.owed name).isSome) : l'.IsAlone := by
  intro name known
  rw [owed] at known
  obtain ⟨going, only⟩ := h name known
  refine ⟨ended.trans going, fun other known => only other ?_⟩
  rw [← owed, known]

theorem act (h : l.IsAlone) {step : CaptureStep} (free : ∀ name, step = .start name → ∀ other, l.owed other = none) :
    (l.act step).IsAlone := by
  cases step with
  | start name =>
    have only : ∀ other, ((l.act (.start name)).owed other).isSome → other = name := by
      intro other known
      by_contra different
      simp only [CaptureLedger.act, Function.update_of_ne different, free name rfl] at known
      cases known
    intro first known
    rw [only first known]
    refine ⟨?_, only⟩
    rw [CaptureLedger.act, free name rfl, Option.isSome_none]
  | drop name =>
    by_cases live : (l.owed name).isSome
    · rw [CaptureLedger.act, if_pos live]
      intro other known
      exfalso
      by_cases same : other = name
      · subst same
        simp at known
      · simp only [Function.update_of_ne same] at known
        exact same ((h name live).2 other known)
    · rw [CaptureLedger.act, if_neg live]
      exact h
  | read name => exact h
  | take name =>
    refine h.of_owed rfl fun other => ?_
    rw [CaptureLedger.act]
    by_cases same : other = name
    · subst same
      simp
    · simp [same]
  | emit line =>
    refine h.of_owed rfl fun name => ?_
    rw [CaptureLedger.act, Option.isSome_map]

end IsAlone

theorem isAlone_after {i : Nat} {steps : List (Nat × CaptureStep)} (apart : IsApart i steps) :
    (after i steps).IsAlone := by
  induction steps using List.reverseRecOn with
  | nil => exact fun name known => by cases known
  | append_singleton steps step ih =>
    obtain ⟨j, step⟩ := step
    have alone : (after i steps).IsAlone := by
      refine ih fun before name rest split => apart before name (rest ++ [(j, step)]) ?_
      rw [split, List.append_assoc, List.cons_append]
    rw [after_append]
    split_ifs with same
    · subst same
      exact alone.act fun name started => apart steps name [] (by rw [started])
    · exact alone

end CaptureLedger

/-- Captures that start only when no other is live on their thread get all the lines that they are owed. -/
theorem CaptureThreads.lines_of_apart {i : Nat} {steps : List (Nat × CaptureStep)}
    (apart : CaptureLedger.IsApart i steps) {name : String} {own : List String}
    (owed : (CaptureLedger.after i steps).owed name = some own) : ((start.run steps).thread i).lines = own := by
  obtain ⟨going, only⟩ := CaptureLedger.isAlone_after apart name (by rw [owed]; rfl)
  refine ((keeps_after i steps).lines_eq_iff owed).2 (.inr ⟨going, fun other its known => ?_⟩)
  have same : other = name := only other (by rw [known]; rfl)
  rw [same, owed] at known
  cases known
  exact List.suffix_rfl

end RecordFilter
