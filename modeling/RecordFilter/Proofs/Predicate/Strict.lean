import RecordFilter.Predicate.Basic
import RecordFilter.Proofs.Outcome

set_option autoImplicit false

/-!
# Strict evaluation

`Predicate.holds` takes a value of the wrong shape for one that is missing. Evaluated strictly, a predicate stops at
such a value instead. Where it does not stop, the two ways of evaluation agree.
-/

namespace RecordFilter

inductive Misfit where
  /-- A field is looked for in what is no record. -/
  | hop (v : Value) (name : String)
  /-- Elements are looked for in what is no list. -/
  | collection (v : Value)
  /-- A record or a list is compared. -/
  | leaf (v : Value)

namespace Value

def isScalar : Value → Bool
  | record _ | list _ => false
  | _ => true

def getStrictly (v : Value) (name : String) : Except Misfit Value :=
  match v with
  | record _ | null => .ok (v.get name)
  | _ => .error (.hop v name)

def followStrictly (v : Value) (path : List String) : Except Misfit Value := path.foldlM getStrictly v

def itemsStrictly (v : Value) : Except Misfit (List Value) :=
  match v with
  | list items => .ok items
  | null => .ok []
  | _ => .error (.collection v)

def scalarStrictly (v : Value) : Except Misfit Value :=
  if v.isScalar then .ok v else .error (.leaf v)

/-- Puts what stands at the end of a path to a test, if it is a scalar. -/
def testStrictly (v : Value) (path : List String) (test : Value → Bool) : Except Misfit Bool := do
  let w ← v.followStrictly path
  w.scalarStrictly.map test

theorem get_of_getStrictly {v w : Value} {name : String} (h : v.getStrictly name = .ok w) : v.get name = w := by
  cases v with
  | record fields => exact Except.ok.inj h
  | null => exact Except.ok.inj h
  | _ => cases h

theorem followStrictly_nil (v : Value) : v.followStrictly [] = .ok v := rfl

theorem followStrictly_cons (v : Value) (name : String) (path : List String) :
    v.followStrictly (name :: path) = v.getStrictly name >>= fun w => w.followStrictly path :=
  List.foldlM_cons

theorem followStrictly_append (v : Value) (path : List String) (name : String) :
    v.followStrictly (path ++ [name]) = v.followStrictly path >>= fun w => w.getStrictly name := by
  rw [followStrictly, List.foldlM_append, followStrictly]
  congr 1
  funext w
  exact bind_pure (w.getStrictly name)

theorem follow_of_followStrictly {v w : Value} {path : List String} (h : v.followStrictly path = .ok w) :
    v.follow path = w := by
  induction path generalizing v with
  | nil => exact Except.ok.inj h
  | cons name path ih =>
    rw [followStrictly_cons, Outcome.bind_eq_ok_iff] at h
    obtain ⟨u, first, rest⟩ := h
    rw [follow, List.foldl_cons, get_of_getStrictly first]
    exact ih rest

theorem eq_of_scalarStrictly {v w : Value} (h : v.scalarStrictly = .ok w) : v = w := by
  rw [scalarStrictly] at h
  split at h
  · exact Except.ok.inj h
  · cases h

theorem test_of_testStrictly {v : Value} {path : List String} {test : Value → Bool} {b : Bool}
    (h : v.testStrictly path test = .ok b) : test (v.follow path) = b := by
  obtain ⟨w, followed, tested⟩ := Outcome.bind_eq_ok_iff.1 h
  obtain ⟨leaf, scalar, rfl⟩ := Outcome.map_eq_ok_iff.1 tested
  rw [follow_of_followStrictly followed, eq_of_scalarStrictly scalar]

theorem testStrictly_of_isScalar {v w : Value} {path : List String} (followed : v.followStrictly path = .ok w)
    (scalar : w.isScalar = true) (test : Value → Bool) : v.testStrictly path test = .ok (test w) := by
  rw [testStrictly, followed]
  change w.scalarStrictly.map test = _
  rw [scalarStrictly, if_pos scalar]
  rfl

end Value

namespace Predicate

mutual

/-- Evaluates as far as `holds` does and in the same order. -/
def evaluate : Predicate → Value → Except Misfit Bool
  | always, _ => .ok true
  | and ps, v => evaluateAll ps v
  | or ps, v => evaluateAny ps v
  | not p, v => (evaluate p v).map Bool.not
  | isNull field, v => (v.followStrictly field).map fun w => w.isNull
  | isNotNull field, v => (v.followStrictly field).map fun w => !w.isNull
  | compare field op value foldCase, v => v.testStrictly field (compare [] op value foldCase).holds
  | like field pattern foldCase negated, v => v.testStrictly field (like [] pattern foldCase negated).holds
  | anyElement collection p, v => do
    let w ← v.followStrictly collection
    let items ← w.itemsStrictly
    items.anyM fun item => evaluate p item

def evaluateAll : List Predicate → Value → Except Misfit Bool
  | [], _ => .ok true
  | p :: ps, v => do if ← evaluate p v then evaluateAll ps v else .ok false

def evaluateAny : List Predicate → Value → Except Misfit Bool
  | [], _ => .ok false
  | p :: ps, v => do if ← evaluate p v then .ok true else evaluateAny ps v

end

mutual

/-- Where strict evaluation gives an answer, it is the one that evaluation gives. -/
theorem holds_of_evaluate : ∀ {p : Predicate} {v : Value} {b : Bool}, p.evaluate v = .ok b → p.holds v = b
  | always, _, _, h => Except.ok.inj h
  | and _, _, _, h => allHold_of_evaluateAll h
  | or _, _, _, h => anyHolds_of_evaluateAny h
  | not p, v, b, h => by
    obtain ⟨c, inner, rfl⟩ := Outcome.map_eq_ok_iff.1 h
    rw [holds, holds_of_evaluate inner]
  | isNull field, v, b, h => by
    obtain ⟨w, followed, rfl⟩ := Outcome.map_eq_ok_iff.1 h
    rw [holds, Value.follow_of_followStrictly followed]
  | isNotNull field, v, b, h => by
    obtain ⟨w, followed, rfl⟩ := Outcome.map_eq_ok_iff.1 h
    rw [holds, Value.follow_of_followStrictly followed]
  | compare field op value foldCase, v, b, h => by
    rw [holds]
    exact Value.test_of_testStrictly h
  | like field pattern foldCase negated, v, b, h => by
    rw [holds]
    exact Value.test_of_testStrictly h
  | anyElement collection p, v, b, h => by
    rw [evaluate, Outcome.bind_eq_ok_iff] at h
    obtain ⟨w, followed, rest⟩ := h
    obtain ⟨items, listed, searched⟩ := Outcome.bind_eq_ok_iff.1 rest
    rw [holds, Value.follow_of_followStrictly followed]
    cases w with
    | list members =>
      cases listed
      exact Outcome.any_of_anyM (fun item c hc => holds_of_evaluate hc) searched
    | null =>
      cases listed
      exact Except.ok.inj searched
    | _ => cases listed

theorem allHold_of_evaluateAll : ∀ {ps : List Predicate} {v : Value} {b : Bool},
    evaluateAll ps v = .ok b → allHold ps v = b
  | [], _, _, h => Except.ok.inj h
  | p :: ps, v, b, h => by
    rw [evaluateAll, Outcome.bind_eq_ok_iff] at h
    obtain ⟨first, hfirst, rest⟩ := h
    rw [allHold, holds_of_evaluate hfirst]
    cases first with
    | true => exact allHold_of_evaluateAll rest
    | false => exact Except.ok.inj rest

theorem anyHolds_of_evaluateAny : ∀ {ps : List Predicate} {v : Value} {b : Bool},
    evaluateAny ps v = .ok b → anyHolds ps v = b
  | [], _, _, h => Except.ok.inj h
  | p :: ps, v, b, h => by
    rw [evaluateAny, Outcome.bind_eq_ok_iff] at h
    obtain ⟨first, hfirst, rest⟩ := h
    rw [anyHolds, holds_of_evaluate hfirst]
    cases first with
    | true => exact Except.ok.inj rest
    | false => exact anyHolds_of_evaluateAny rest

end

def Fits (p : Predicate) (v : Value) : Prop := ∃ b, p.evaluate v = .ok b

theorem Fits.evaluate_eq {p : Predicate} {v : Value} (h : p.Fits v) : p.evaluate v = .ok (p.holds v) := by
  obtain ⟨b, evaluated⟩ := h
  rw [evaluated, holds_of_evaluate evaluated]

variable {v w : Value} {field : FieldRef}

theorem fits_isNull (followed : v.followStrictly field = .ok w) : (isNull field).Fits v :=
  ⟨w.isNull, by rw [evaluate, followed]; rfl⟩

theorem fits_isNotNull (followed : v.followStrictly field = .ok w) : (isNotNull field).Fits v :=
  ⟨!w.isNull, by rw [evaluate, followed]; rfl⟩

theorem fits_compare (followed : v.followStrictly field = .ok w) (scalar : w.isScalar = true) (op : Comparison)
    (value : Literal) (foldCase : Bool) : (compare field op value foldCase).Fits v :=
  ⟨_, Value.testStrictly_of_isScalar followed scalar _⟩

theorem fits_like (followed : v.followStrictly field = .ok w) (scalar : w.isScalar = true) (pattern : LikePattern)
    (foldCase negated : Bool) : (like field pattern foldCase negated).Fits v :=
  ⟨_, Value.testStrictly_of_isScalar followed scalar _⟩

theorem fits_and {ps : List Predicate} (h : ∀ p ∈ ps, p.Fits v) : (and ps).Fits v := by
  unfold Fits
  rw [evaluate]
  induction ps with
  | nil => exact ⟨true, rfl⟩
  | cons p ps ih =>
    rw [List.forall_mem_cons] at h
    obtain ⟨b, first⟩ := h.1
    rw [evaluateAll, first]
    cases b with
    | true => exact ih h.2
    | false => exact ⟨false, rfl⟩

theorem fits_or {ps : List Predicate} (h : ∀ p ∈ ps, p.Fits v) : (or ps).Fits v := by
  unfold Fits
  rw [evaluate]
  induction ps with
  | nil => exact ⟨false, rfl⟩
  | cons p ps ih =>
    rw [List.forall_mem_cons] at h
    obtain ⟨b, first⟩ := h.1
    rw [evaluateAny, first]
    cases b with
    | true => exact ⟨true, rfl⟩
    | false => exact ih h.2

theorem fits_conjunction {ps : List Predicate} (h : ∀ p ∈ ps, p.Fits v) : (conjunction ps).Fits v := by
  match ps with
  | [] => exact ⟨true, rfl⟩
  | [p] => exact h p List.mem_cons_self
  | _ :: _ :: _ => exact fits_and h

theorem fits_disjunction {ps : List Predicate} (h : ∀ p ∈ ps, p.Fits v) : (disjunction ps).Fits v := by
  match ps with
  | [] => exact ⟨false, rfl⟩
  | [p] => exact h p List.mem_cons_self
  | _ :: _ :: _ => exact fits_or h

theorem fits_anyElement {items : List Value} {p : Predicate} (followed : v.followStrictly field = .ok w)
    (listed : w.itemsStrictly = .ok items) (h : ∀ item ∈ items, p.Fits item) : (anyElement field p).Fits v := by
  unfold Fits
  rw [evaluate, followed]
  change ∃ b, (w.itemsStrictly >>= fun items => items.anyM fun item => p.evaluate item) = .ok b
  rw [listed]
  exact Outcome.exists_anyM_ok h

end Predicate

end RecordFilter
