import RecordFilter.Proofs.Outcome
import RecordFilter.Segment.Fold

set_option autoImplicit false

/-!
# The algebra of condition sets

The plain algebra of lists of records with keys, and that the fold of the sets computes it. What carries the fold is
that the keys it turns away are those of its running records, and that no two of these have the same key.
-/

namespace RecordFilter.Fold

variable {α : Type}

def within (ks : List RecordKey) (xs : List (RecordKey × α)) : List (RecordKey × α) :=
  xs.filter fun x => decide (x.1 ∈ ks)

def outside (ks : List RecordKey) (xs : List (RecordKey × α)) : List (RecordKey × α) :=
  xs.filter fun x => decide (x.1 ∉ ks)

/-- The first record of each key. -/
def firsts : List (RecordKey × α) → List (RecordKey × α)
  | [] => []
  | x :: xs => x :: outside [x.1] (firsts xs)

def joined : Combinator → List (RecordKey × α) → List (RecordKey × α) → List (RecordKey × α)
  | .union, running, xs => running ++ outside (keys running) (firsts xs)
  | .intersect, running, xs => within (keys xs) running
  | .except, running, xs => outside (keys xs) running

def joinedAll (running : List (RecordKey × α)) : List (Combinator × List (RecordKey × α)) → List (RecordKey × α)
  | [] => running
  | (op, xs) :: rest => joinedAll (joined op running xs) rest

theorem keys_append (xs ys : List (RecordKey × α)) : keys (xs ++ ys) = keys xs ++ keys ys :=
  List.map_append

theorem keys_filter_nodup {xs : List (RecordKey × α)} (h : (keys xs).Nodup) (p : RecordKey × α → Bool) :
    (keys (xs.filter p)).Nodup :=
  h.sublist (List.filter_sublist.map _)

theorem mem_keys_outside {ks : List RecordKey} {xs : List (RecordKey × α)} {key : RecordKey} :
    key ∈ keys (outside ks xs) ↔ key ∈ keys xs ∧ key ∉ ks := by
  simp only [keys, outside, List.mem_map, List.mem_filter, decide_eq_true_eq]
  constructor
  · rintro ⟨x, ⟨hx, fresh⟩, rfl⟩
    exact ⟨⟨x, hx, rfl⟩, fresh⟩
  · rintro ⟨⟨x, hx, rfl⟩, fresh⟩
    exact ⟨x, ⟨hx, fresh⟩, rfl⟩

theorem outside_outside (ks ls : List RecordKey) (xs : List (RecordKey × α)) :
    outside ks (outside ls xs) = outside (ks ++ ls) xs := by
  unfold outside
  rw [List.filter_filter]
  refine List.filter_congr fun x _ => ?_
  rw [Bool.eq_iff_iff]
  simp only [Bool.and_eq_true, decide_eq_true_eq, List.mem_append, not_or]

theorem outside_append_singleton {ks : List RecordKey} {key : RecordKey} (h : key ∈ ks) (xs : List (RecordKey × α)) :
    outside (ks ++ [key]) xs = outside ks xs := by
  refine List.filter_congr fun x _ => ?_
  rw [decide_eq_decide, List.mem_append, List.mem_singleton, not_or, and_iff_left_iff_imp]
  rintro fresh rfl
  exact fresh h

theorem nodup_keys_firsts (xs : List (RecordKey × α)) : (keys (firsts xs)).Nodup := by
  induction xs with
  | nil => exact List.nodup_nil
  | cons x xs ih =>
    rw [firsts, keys, List.map_cons, List.nodup_cons]
    refine ⟨fun again => ?_, keys_filter_nodup ih _⟩
    exact (mem_keys_outside.1 again).2 List.mem_cons_self

theorem nodup_keys_joined (op : Combinator) {running : List (RecordKey × α)} (h : (keys running).Nodup)
    (xs : List (RecordKey × α)) : (keys (joined op running xs)).Nodup := by
  cases op with
  | union =>
    rw [joined, keys_append, List.nodup_append]
    refine ⟨h, keys_filter_nodup (nodup_keys_firsts xs) _, ?_⟩
    rintro key present _ added rfl
    exact (mem_keys_outside.1 added).2 present
  | intersect => exact keys_filter_nodup h _
  | except => exact keys_filter_nodup h _

namespace Running

/-- What a running result promises between two steps, and while records are added to it. -/
structure IsTracked (r : Running α) : Prop where
  nodup : (keys r.records).Nodup
  seen_iff : ∀ key, key ∈ r.seen ↔ key ∈ keys r.records

theorem isTracked_empty : IsTracked (⟨[], []⟩ : Running α) where
  nodup := List.nodup_nil
  seen_iff _ := Iff.rfl

theorem isTracked_refresh {r : Running α} (h : (keys r.records).Nodup) : r.refresh.IsTracked where
  nodup := h
  seen_iff _ := Iff.rfl

theorem records_insert {r : Running α} (h : r.IsTracked) (key : RecordKey) (a : α) :
    (r.insert key a).records = r.records ++ outside (keys r.records) [(key, a)] := by
  rw [insert]
  by_cases present : key ∈ r.seen
  · rw [if_pos present, outside, List.filter_cons_of_neg (by simpa using (h.seen_iff key).1 present), List.filter_nil,
      List.append_nil]
  · have fresh : key ∉ keys r.records := fun h' => present ((h.seen_iff key).2 h')
    rw [if_neg present, outside, List.filter_cons_of_pos (by simpa using fresh), List.filter_nil]

theorem isTracked_insert {r : Running α} (h : r.IsTracked) (key : RecordKey) (a : α) : (r.insert key a).IsTracked := by
  rw [insert]
  by_cases present : key ∈ r.seen
  · rw [if_pos present]
    exact h
  · have fresh : key ∉ keys r.records := fun h' => present ((h.seen_iff key).2 h')
    rw [if_neg present]
    constructor
    · rw [keys_append, List.nodup_append]
      refine ⟨h.nodup, List.pairwise_singleton _ key, ?_⟩
      rintro old present _ added rfl
      have same : old = key := List.mem_singleton.1 added
      exact fresh (same ▸ present)
    · intro other
      rw [keys_append, List.mem_cons, List.mem_append, h.seen_iff, or_comm]
      exact or_congr_right List.mem_singleton.symm

def insertKeyed (r : Running α) : List (RecordKey × α) → Running α
  | [] => r
  | x :: xs => (r.insert x.1 x.2).insertKeyed xs

theorem isTracked_insertKeyed {r : Running α} (h : r.IsTracked) (xs : List (RecordKey × α)) :
    (r.insertKeyed xs).IsTracked := by
  induction xs generalizing r with
  | nil => exact h
  | cons x xs ih => exact ih (isTracked_insert h x.1 x.2)

theorem records_insertKeyed {r : Running α} (h : r.IsTracked) (xs : List (RecordKey × α)) :
    (r.insertKeyed xs).records = joined .union r.records xs := by
  induction xs generalizing r with
  | nil => exact (List.append_nil _).symm
  | cons x xs ih =>
    rw [insertKeyed, ih (isTracked_insert h x.1 x.2), records_insert h]
    simp only [joined, firsts]
    by_cases present : x.1 ∈ keys r.records
    · have none : outside (keys r.records) [x] = [] := by
        simp [outside, present]
      have skipped : outside (keys r.records) (x :: outside [x.1] (firsts xs)) =
          outside (keys r.records) (outside [x.1] (firsts xs)) := by
        rw [outside, List.filter_cons_of_neg (by simpa using present)]
        rfl
      rw [none, List.append_nil, skipped, outside_outside, outside_append_singleton present]
    · have one : outside (keys r.records) [x] = [x] := by
        simp [outside, present]
      have added : outside (keys r.records) (x :: outside [x.1] (firsts xs)) =
          x :: outside (keys r.records) (outside [x.1] (firsts xs)) := by
        rw [outside, List.filter_cons_of_pos (by simpa using present)]
        rfl
      rw [one, added, outside_outside, keys_append, List.append_assoc]
      rfl

variable {all : List α}

def IsFrom (all : List α) (r : Running α) : Prop := r.records.map Prod.snd ⊆ all

theorem IsFrom.filter {r : Running α} (h : r.IsFrom all) (keep : RecordKey → Bool) : (r.filter keep).IsFrom all :=
  List.Subset.trans (List.map_subset _ (List.filter_subset_self _)) h

theorem IsFrom.insert {r : Running α} (h : r.IsFrom all) (key : RecordKey) {a : α} (ha : a ∈ all) :
    (r.insert key a).IsFrom all := by
  rw [Running.insert]
  split
  · exact h
  · rw [IsFrom, List.map_append, List.append_subset]
    exact ⟨h, List.cons_subset.2 ⟨ha, List.nil_subset _⟩⟩

end Running

variable [HasFields α] (field : FieldRef)

def keyed (records : List α) : Except FilterError (List (RecordKey × α)) :=
  records.mapM fun a => (RecordKey.of field a).map fun key => (key, a)

theorem keyed_cons (a : α) (as : List α) :
    keyed field (a :: as) = RecordKey.of field a >>= fun key => (keyed field as).map ((key, a) :: ·) := by
  rw [keyed, Outcome.mapM_cons]
  cases RecordKey.of field a <;> rfl

theorem mapM_key_eq_keyed (records : List α) :
    records.mapM (RecordKey.of field) = (keyed field records).map keys := by
  induction records with
  | nil => rfl
  | cons a as ih =>
    rw [Outcome.mapM_cons, keyed_cons, ih]
    cases RecordKey.of field a with
    | error e => rfl
    | ok key => cases keyed field as <;> rfl

theorem insertAll_eq_keyed (r : Running α) (records : List α) :
    insertAll field r records = (keyed field records).map r.insertKeyed := by
  induction records generalizing r with
  | nil => rfl
  | cons a as ih =>
    rw [insertAll, keyed_cons]
    cases RecordKey.of field a with
    | error e => rfl
    | ok key =>
      change insertAll field (r.insert key a) as = ((keyed field as).map ((key, a) :: ·)).map r.insertKeyed
      rw [ih]
      cases keyed field as <;> rfl

theorem steps_cons (r : Running α) (set : CompiledSet) (records : List α) (rest : List (CompiledSet × List α)) :
    (steps field r ((set, records) :: rest)).2 = step field r set records >>= fun next => (steps field next rest).2 := by
  rw [steps]
  cases step field r set records <;> rfl

theorem run_cons (set : CompiledSet) (first : List α) (rest : List (CompiledSet × List α)) :
    (run (some field) ((set, first) :: rest)).2 =
      insertAll field ⟨[], []⟩ first >>= fun r => (steps field r rest).2.map fun r => r.records.map Prod.snd := by
  rw [run]
  cases insertAll field ⟨[], []⟩ first <;> rfl

/-- One step computes one operation of the algebra, once the keys are read. -/
theorem step_eq_joined {r : Running α} (h : r.IsTracked) {set : CompiledSet} {op : Combinator}
    (hop : set.combinator = some op) (records : List α) :
    step field r set records =
      (keyed field records).map fun xs => (⟨joined op r.records xs, keys (joined op r.records xs)⟩ : Running α) := by
  rw [step, combine, hop]
  cases op with
  | union =>
    rw [insertAll_eq_keyed]
    cases keyed field records with
    | error e => rfl
    | ok xs => exact congrArg (fun rs => Except.ok (⟨rs, keys rs⟩ : Running α)) (Running.records_insertKeyed h xs)
  | intersect =>
    simp only [mapM_key_eq_keyed]
    cases keyed field records <;> rfl
  | except =>
    simp only [mapM_key_eq_keyed]
    cases keyed field records <;> rfl

/-- A set and the records that match it, and what they are to the algebra. -/
def Reads (x : CompiledSet × List α) (term : Combinator × List (RecordKey × α)) : Prop :=
  x.1.combinator = some term.1 ∧ keyed field x.2 = .ok term.2

theorem steps_eq_joinedAll {r : Running α} (h : r.IsTracked) {rest : List (CompiledSet × List α)}
    {terms : List (Combinator × List (RecordKey × α))} (reads : List.Forall₂ (Reads field) rest terms) :
    ((steps field r rest).2).map (fun r => r.records) = .ok (joinedAll r.records terms) := by
  induction reads generalizing r with
  | nil => rfl
  | @cons x term rest terms hx _ ih =>
    obtain ⟨set, records⟩ := x
    obtain ⟨op, xs⟩ := term
    obtain ⟨hop, hxs⟩ := hx
    have stepped : step field r set records = .ok ⟨joined op r.records xs, keys (joined op r.records xs)⟩ := by
      rw [step_eq_joined field h hop, hxs]
      rfl
    have tracked := Running.isTracked_refresh (r := ⟨joined op r.records xs, []⟩) (nodup_keys_joined op h.nodup xs)
    rw [steps, stepped]
    exact ih tracked

/-- The fold of several sets, all of whose records have keys, is what the algebra says. -/
theorem run_eq_joinedAll {set : CompiledSet} {first : List α} {rest : List (CompiledSet × List α)}
    {xs : List (RecordKey × α)} {terms : List (Combinator × List (RecordKey × α))}
    (hfirst : keyed field first = .ok xs) (reads : List.Forall₂ (Reads field) rest terms) :
    (run (some field) ((set, first) :: rest)).2 = .ok ((joinedAll (firsts xs) terms).map Prod.snd) := by
  have inserted : insertAll field ⟨[], []⟩ first = .ok (Running.insertKeyed ⟨[], []⟩ xs) := by
    rw [insertAll_eq_keyed, hfirst]
    rfl
  have begun : (Running.insertKeyed ⟨[], []⟩ xs).records = firsts xs := by
    rw [Running.records_insertKeyed Running.isTracked_empty, joined, List.nil_append, outside, List.filter_eq_self]
    intro x _
    rfl
  have folded := steps_eq_joinedAll field (Running.isTracked_insertKeyed Running.isTracked_empty xs) reads
  rw [begun] at folded
  obtain ⟨last, hlast, records⟩ := Outcome.map_eq_ok_iff.1 folded
  rw [run, inserted]
  simp only [hlast, Except.map, records]

section Origin

variable {all : List α}

theorem isFrom_insertAll {r next : Running α} (h : r.IsFrom all) {records : List α} (from_all : records ⊆ all)
    (inserted : insertAll field r records = .ok next) : next.IsFrom all := by
  induction records generalizing r with
  | nil =>
    cases inserted
    exact h
  | cons a as ih =>
    obtain ⟨key, -, inserted⟩ := Outcome.bind_eq_ok_iff.1 inserted
    rw [List.cons_subset] at from_all
    exact ih (h.insert key from_all.1) from_all.2 inserted

theorem isFrom_step {r next : Running α} (h : r.IsFrom all) {set : CompiledSet} {records : List α}
    (from_all : records ⊆ all) (stepped : step field r set records = .ok next) : next.IsFrom all := by
  rw [step, Outcome.map_eq_ok_iff] at stepped
  obtain ⟨combined, hcombined, rfl⟩ := stepped
  change combined.IsFrom all
  rw [combine] at hcombined
  match hop : set.combinator with
  | none =>
    rw [hop] at hcombined
    cases hcombined
  | some .union =>
    rw [hop] at hcombined
    exact isFrom_insertAll field h from_all hcombined
  | some .intersect | some .except =>
    rw [hop] at hcombined
    obtain ⟨ks, -, rfl⟩ := Outcome.map_eq_ok_iff.1 hcombined
    exact h.filter _

theorem isFrom_steps {r last : Running α} (h : r.IsFrom all) {rest : List (CompiledSet × List α)}
    (from_all : ∀ x ∈ rest, x.2 ⊆ all) (ended : (steps field r rest).2 = .ok last) : last.IsFrom all := by
  induction rest generalizing r with
  | nil =>
    cases ended
    exact h
  | cons x rest ih =>
    obtain ⟨set, records⟩ := x
    rw [List.forall_mem_cons] at from_all
    rw [steps_cons, Outcome.bind_eq_ok_iff] at ended
    obtain ⟨next, stepped, ended⟩ := ended
    exact ih (isFrom_step field h from_all.1 stepped) from_all.2 ended

/-- What sets are combined to comes from their matches. -/
theorem run_subset {key : Option FieldRef} {terms : List (CompiledSet × List α)} {records : List α}
    (from_all : ∀ x ∈ terms, x.2 ⊆ all) (h : (run key terms).2 = .ok records) : records ⊆ all := by
  cases terms with
  | nil =>
    cases h
    exact List.nil_subset _
  | cons x rest =>
    obtain ⟨set, first⟩ := x
    rw [List.forall_mem_cons] at from_all
    cases key with
    | none =>
      cases h
      exact from_all.1
    | some field =>
      rw [run_cons, Outcome.bind_eq_ok_iff] at h
      obtain ⟨r, inserted, h⟩ := h
      obtain ⟨last, ended, rfl⟩ := Outcome.map_eq_ok_iff.1 h
      have begun : (⟨[], []⟩ : Running α).IsFrom all := List.nil_subset _
      exact isFrom_steps field (isFrom_insertAll field begun from_all.1 inserted) from_all.2 ended

end Origin

theorem key_eq_error {a : α} {e : FilterError} (h : RecordKey.of field a = .error e) :
    ∃ what, e = .invalidRecordKey what := by
  rw [RecordKey.of] at h
  cases hv : (scope a).follow field with
  | null | list _ | record _ =>
    rw [hv] at h
    exact ⟨_, (Except.error.inj h).symm⟩
  | _ =>
    rw [hv] at h
    cases h

theorem keyed_eq_error {records : List α} {e : FilterError} (h : keyed field records = .error e) :
    ∃ what, e = .invalidRecordKey what := by
  induction records with
  | nil => cases h
  | cons a as ih =>
    rw [keyed_cons, Outcome.bind_eq_error_iff] at h
    rcases h with unread | ⟨key, -, later⟩
    · exact key_eq_error field unread
    · exact ih (Outcome.map_eq_error_iff.1 later)

theorem insertAll_eq_error_iff {r : Running α} {records : List α} {e : FilterError} :
    insertAll field r records = .error e ↔ keyed field records = .error e := by
  rw [insertAll_eq_keyed, Outcome.map_eq_error_iff]

theorem mapM_key_eq_error_iff {records : List α} {e : FilterError} :
    records.mapM (RecordKey.of field) = .error e ↔ keyed field records = .error e := by
  rw [mapM_key_eq_keyed, Outcome.map_eq_error_iff]

def IsFault (e : FilterError) : Prop := (∃ what, e = .invalidRecordKey what) ∨ ∃ sort, e = .requiredIntersection sort

theorem isFault_of_step {r : Running α} {set : CompiledSet} {records : List α} {e : FilterError}
    (h : step field r set records = .error e) : IsFault e := by
  rw [step, Outcome.map_eq_error_iff, combine] at h
  cases hop : set.combinator with
  | none =>
    rw [hop] at h
    exact Or.inr ⟨set.sort, (Except.error.inj h).symm⟩
  | some op =>
    rw [hop] at h
    have unread : keyed field records = .error e := by
      cases op with
      | union => exact (insertAll_eq_error_iff field).1 h
      | intersect | except => exact (mapM_key_eq_error_iff field).1 (Outcome.map_eq_error_iff.1 h)
    exact Or.inl (keyed_eq_error field unread)

theorem isFault_of_steps {r : Running α} {rest : List (CompiledSet × List α)} {e : FilterError}
    (h : (steps field r rest).2 = .error e) : IsFault e := by
  induction rest generalizing r with
  | nil => cases h
  | cons x rest ih =>
    obtain ⟨set, records⟩ := x
    rw [steps_cons, Outcome.bind_eq_error_iff] at h
    rcases h with here | ⟨next, -, later⟩
    · exact isFault_of_step field here
    · exact ih later

theorem isFault_of_run {key : Option FieldRef} {terms : List (CompiledSet × List α)} {e : FilterError}
    (h : (run key terms).2 = .error e) : IsFault e := by
  cases terms with
  | nil => cases h
  | cons x rest =>
    obtain ⟨set, first⟩ := x
    cases key with
    | none => cases h
    | some field =>
      rw [run_cons, Outcome.bind_eq_error_iff] at h
      rcases h with here | ⟨r, -, later⟩
      · exact Or.inl (keyed_eq_error field ((insertAll_eq_error_iff field).1 here))
      · exact isFault_of_steps field (Outcome.map_eq_error_iff.1 later)

end RecordFilter.Fold
