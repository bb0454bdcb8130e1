import Mathlib
import RecordFilter.Proofs.Segment.Compiled
import RecordFilter.Proofs.Segment.KeyFaults
import RecordFilter.Proofs.Segment.SetAlgebra

set_option autoImplicit false

namespace RecordFilter.Fold

variable {α : Type}

theorem within_keys_filter (p : RecordKey → Bool) (running : List (RecordKey × α)) :
    within (keys (running.filter fun x => p x.1)) running = running.filter fun x => p x.1 := by
  refine List.filter_congr fun x hx => ?_
  rw [Bool.eq_iff_iff, decide_eq_true_eq, keys, List.mem_map]
  constructor
  · rintro ⟨y, hy, same⟩
    rw [← same]
    exact (List.mem_filter.1 hy).2
  · intro holds
    exact ⟨x, List.mem_filter.2 ⟨hx, holds⟩, rfl⟩

/-- Of the running records a set keeps some as they are, and it adds only behind them. -/
theorem prefix_joined (op : Combinator) (running xs : List (RecordKey × α)) :
    within (keys (joined op running xs)) running <+: joined op running xs := by
  cases op with
  | union =>
    have all : within (keys (joined .union running xs)) running = running := by
      refine List.filter_eq_self.2 fun x hx => ?_
      rw [decide_eq_true_eq, joined, keys_append, List.mem_append]
      exact Or.inl (List.mem_map_of_mem hx)
    rw [all]
    exact List.prefix_append _ _
  | intersect =>
    have kept : within (keys (joined .intersect running xs)) running = joined .intersect running xs :=
      within_keys_filter (fun key => decide (key ∈ keys xs)) running
    rw [kept]
  | except =>
    have kept : within (keys (joined .except running xs)) running = joined .except running xs :=
      within_keys_filter (fun key => decide (key ∉ keys xs)) running
    rw [kept]

theorem mem_of_mem_firsts {xs : List (RecordKey × α)} {x : RecordKey × α} (h : x ∈ firsts xs) : x ∈ xs := by
  induction xs with
  | nil => cases h
  | cons y xs ih =>
    rcases List.mem_cons.1 h with rfl | later
    · exact List.mem_cons_self
    · exact List.mem_cons_of_mem y (ih (List.mem_filter.1 later).1)

theorem mem_of_mem_joined {op : Combinator} {running xs : List (RecordKey × α)} {x : RecordKey × α}
    (h : x ∈ joined op running xs) : x ∈ running ∨ x ∈ xs := by
  cases op with
  | union =>
    rcases List.mem_append.1 h with old | added
    · exact Or.inl old
    · exact Or.inr (mem_of_mem_firsts (List.mem_filter.1 added).1)
  | intersect => exact Or.inl (List.mem_filter.1 h).1
  | except => exact Or.inl (List.mem_filter.1 h).1

/-- The running records after the first set and that many more. -/
def stage (first : List (RecordKey × α)) (terms : List (Combinator × List (RecordKey × α))) (n : Nat) :
    List (RecordKey × α) :=
  joinedAll (firsts first) (terms.take n)

theorem joinedAll_append (running : List (RecordKey × α)) (terms more : List (Combinator × List (RecordKey × α))) :
    joinedAll running (terms ++ more) = joinedAll (joinedAll running terms) more := by
  induction terms generalizing running with
  | nil => rfl
  | cons term terms ih => exact ih _

theorem stage_succ (first : List (RecordKey × α)) (terms : List (Combinator × List (RecordKey × α))) (n : Nat) :
    stage first terms (n + 1) = stage first terms n ∨
      ∃ term ∈ terms, stage first terms (n + 1) = joined term.1 (stage first terms n) term.2 := by
  rw [stage, List.take_add_one, joinedAll_append]
  cases found : terms[n]? with
  | none => exact Or.inl rfl
  | some term => exact Or.inr ⟨term, List.mem_of_getElem? found, rfl⟩

theorem prefix_stage (first : List (RecordKey × α)) (terms : List (Combinator × List (RecordKey × α))) (n : Nat) :
    within (keys (stage first terms (n + 1))) (stage first terms n) <+: stage first terms (n + 1) := by
  rcases stage_succ first terms n with same | ⟨term, -, joins⟩
  · rw [same]
    have all : within (keys (stage first terms n)) (stage first terms n) = stage first terms n :=
      List.filter_eq_self.2 fun x hx => decide_eq_true (List.mem_map_of_mem hx)
    rw [all]
  · rw [joins]
    exact prefix_joined _ _ _

/-- The records of a stage whose keys are in all stages from there to another. -/
def staying (stages : Nat → List (RecordKey × α)) (m n : Nat) : List (RecordKey × α) :=
  (stages m).filter fun x => decide (∀ i ≤ n, m ≤ i → x.1 ∈ keys (stages i))

/-- No stage has a key twice. Records that stay are the first ones later on, in their order, and they stay themselves,
not other ones with their keys. -/
structure IsSteady (stages : Nat → List (RecordKey × α)) : Prop where
  distinct : ∀ n, (keys (stages n)).Nodup
  ordered : ∀ m n, m ≤ n → staying stages m n <+: stages n
  kept : ∀ m n x, m ≤ n → x ∈ stages m → (∀ i ≤ n, m ≤ i → x.1 ∈ keys (stages i)) → x ∈ stages n

theorem prefix_staying {stages : Nat → List (RecordKey × α)}
    (step : ∀ n, within (keys (stages (n + 1))) (stages n) <+: stages (n + 1)) {m n : Nat} (le : m ≤ n) :
    staying stages m n <+: stages n := by
  induction n, le using Nat.le_induction with
  | base =>
    have all : staying stages m m = stages m := by
      refine List.filter_eq_self.2 fun x hx => decide_eq_true fun i below above => ?_
      rw [Nat.le_antisymm below above]
      exact List.mem_map_of_mem hx
    rw [all]
  | succ n le ih =>
    have longer : staying stages m (n + 1) = within (keys (stages (n + 1))) (staying stages m n) := by
      rw [staying, staying, within, List.filter_filter]
      refine List.filter_congr fun x _ => ?_
      rw [Bool.eq_iff_iff, Bool.and_eq_true, decide_eq_true_eq, decide_eq_true_eq, decide_eq_true_eq]
      constructor
      · intro stays
        exact ⟨stays (n + 1) (Nat.le_refl _) (by omega), fun i below above => stays i (by omega) above⟩
      · rintro ⟨last, stays⟩ i below above
        by_cases here : i = n + 1
        · rw [here]
          exact last
        · exact stays i (by omega) above
    rw [longer]
    exact (ih.filter _).trans (step n)

theorem isSteady_stage (first : List (RecordKey × α)) (terms : List (Combinator × List (RecordKey × α))) :
    IsSteady (stage first terms) := by
  have ordered (m n : Nat) (le : m ≤ n) := prefix_staying (prefix_stage first terms) le
  refine ⟨fun n => ?_, ordered, fun m n x le hx stays => ?_⟩
  · induction n with
    | zero => exact nodup_keys_firsts first
    | succ n ih =>
      rcases stage_succ first terms n with same | ⟨term, -, joins⟩
      · rw [same]
        exact ih
      · rw [joins]
        exact nodup_keys_joined term.1 ih term.2
  · exact (ordered m n le).subset (List.mem_filter.2 ⟨hx, decide_eq_true stays⟩)

variable [HasFields α] {field : FieldRef}

theorem reads_rightUnique : Relator.RightUnique (Reads (α := α) field) := by
  rintro x ⟨op, xs⟩ ⟨op', xs'⟩ ⟨hop, hxs⟩ ⟨hop', hxs'⟩
  cases hop.symm.trans hop'
  cases hxs.symm.trans hxs'
  rfl

theorem of_mem_keyed {records : List α} {xs : List (RecordKey × α)} (h : keyed field records = .ok xs) :
    ∀ x ∈ xs, RecordKey.of field x.2 = .ok x.1 := by
  intro x hx
  obtain ⟨a, -, read⟩ := Outcome.exists_of_forall₂_of_mem (Outcome.mapM_eq_ok_iff.1 h).flip hx
  obtain ⟨key, hkey, rfl⟩ := Outcome.map_eq_ok_iff.1 read
  exact hkey

theorem keyed_map_snd {xs : List (RecordKey × α)} (h : ∀ x ∈ xs, RecordKey.of field x.2 = .ok x.1) :
    keyed field (xs.map Prod.snd) = .ok xs := by
  rw [keyed, Outcome.mapM_eq_ok_iff, List.forall₂_map_left_iff, List.forall₂_same]
  intro x hx
  rw [h x hx]
  rfl

theorem of_mem_stage {first : List (RecordKey × α)} {terms : List (Combinator × List (RecordKey × α))}
    (hfirst : ∀ x ∈ first, RecordKey.of field x.2 = .ok x.1)
    (hterms : ∀ term ∈ terms, ∀ x ∈ term.2, RecordKey.of field x.2 = .ok x.1) (n : Nat) :
    ∀ x ∈ stage first terms n, RecordKey.of field x.2 = .ok x.1 := by
  induction n with
  | zero => exact fun x hx => hfirst x (mem_of_mem_firsts hx)
  | succ n ih =>
    rcases stage_succ first terms n with same | ⟨term, hterm, joins⟩
    · rw [same]
      exact ih
    · intro x hx
      rw [joins] at hx
      rcases mem_of_mem_joined hx with old | added
      · exact ih x old
      · exact hterms term hterm x added

end RecordFilter.Fold

namespace RecordFilter

variable {α : Type} [HasFields α]

def CompiledSegment.HasKey (c : CompiledSegment) (a : α) : Prop :=
  ∃ field key, c.key = some field ∧ RecordKey.of field a = .ok key

namespace Compiler

open Fold (keyed firsts joinedAll stage)

variable {k : Compiler} {segment : Segment} {c : CompiledSegment}

theorem SetsCompile.exists_terms {specs : List ConditionSet} {set : CompiledSet} {sets : List CompiledSet}
    (h : k.SetsCompile specs (set :: sets)) {field : FieldRef} {later : List (List α)}
    (valid : ∀ records ∈ later, ∃ xs, keyed field records = .ok xs) :
    ∃ terms, List.Forall₂ (Fold.Reads field) (sets.zip later) terms := by
  refine Outcome.exists_forall₂ fun x hx => ?_
  obtain ⟨hset, hrecords⟩ := List.of_mem_zip hx
  obtain ⟨op, hop⟩ := Option.isSome_iff_exists.1 (h.combinators_of_tail x.1 hset)
  obtain ⟨xs, hxs⟩ := valid x.2 hrecords
  exact ⟨(op, xs), hop, hxs⟩

/-- The fold of several sets, over whatever lists of records with keys, is what the algebra says after every set. -/
theorem fold_stages (h : k.compileSegment segment = .ok c) (several : 2 ≤ c.sets.length) {subsets : List (List α)}
    (each : subsets.length = c.sets.length) (valid : ∀ records ∈ subsets, ∀ a ∈ records, c.HasKey a) :
    ∃ field head first terms, c.key = some field ∧ subsets.head? = some head ∧ keyed field head = .ok first ∧
      List.Forall₂ (Fold.Reads field) (c.sets.zip subsets).tail terms ∧
      (Fold.run c.key (c.sets.zip subsets)).2 = .ok ((joinedAll (firsts first) terms).map Prod.snd) ∧
      (∀ n, (Fold.run c.key ((c.sets.zip subsets).take (n + 1))).2 = .ok ((stage first terms n).map Prod.snd) ∧
        keyed field ((stage first terms n).map Prod.snd) = .ok (stage first terms n)) ∧
      Fold.IsSteady (stage first terms) := by
  have compiled := k.compileSegment_eq_ok_iff.1 h
  obtain ⟨field, -, hkey⟩ := compiled.exists_key several
  have readable : ∀ records ∈ subsets, ∃ xs, keyed field records = .ok xs := by
    intro records hrecords
    refine Outcome.exists_mapM_ok_iff.2 fun a ha => ?_
    obtain ⟨own, key, hown, read⟩ := valid records hrecords a ha
    cases hkey.symm.trans hown
    exact ⟨(key, a), by rw [read]; rfl⟩
  obtain ⟨set, sets, hsets⟩ : ∃ set sets, c.sets = set :: sets := List.exists_cons_of_length_pos (by omega)
  obtain ⟨head, later, rfl⟩ : ∃ head later, subsets = head :: later := List.exists_cons_of_length_pos (by omega)
  rw [List.forall_mem_cons] at readable
  obtain ⟨first, hfirst⟩ := readable.1
  obtain ⟨terms, reads⟩ := (hsets ▸ compiled.sets).exists_terms readable.2
  have bearing := Fold.of_mem_keyed hfirst
  have bearings : ∀ term ∈ terms, ∀ x ∈ term.2, RecordKey.of field x.2 = .ok x.1 := by
    intro term hterm
    obtain ⟨x, -, -, read⟩ := Outcome.exists_of_forall₂_of_mem reads.flip hterm
    exact Fold.of_mem_keyed read
  rw [hkey, hsets, List.zip_cons_cons, List.tail_cons]
  refine ⟨field, head, first, terms, rfl, rfl, hfirst, reads, Fold.run_eq_joinedAll field hfirst reads, fun n => ?_,
    Fold.isSteady_stage first terms⟩
  refine ⟨?_, Fold.keyed_map_snd (Fold.of_mem_stage bearing bearings n)⟩
  rw [List.take_succ_cons]
  exact Fold.run_eq_joinedAll field hfirst (List.forall₂_take n reads)

def fourSets : Segment where
  sets :=
    [⟨1, none, ⟨1, .and, [⟨1, "n", .text, .isNotNull, []⟩], []⟩⟩,
      ⟨2, some .except, ⟨1, .and, [⟨1, "n", .text, .isNotNull, []⟩], []⟩⟩,
      ⟨3, some .union, ⟨1, .and, [⟨1, "n", .text, .isNotNull, []⟩], []⟩⟩,
      ⟨4, some .intersect, ⟨1, .and, [⟨1, "n", .text, .isNotNull, []⟩], []⟩⟩]
  orders := none
  page := none

def fourSetsCompiled : CompiledSegment :=
  ⟨[⟨1, none, .isNotNull ["n"]⟩, ⟨2, some .except, .isNotNull ["n"]⟩, ⟨3, some .union, .isNotNull ["n"]⟩,
    ⟨4, some .intersect, .isNotNull ["n"]⟩], [], none, some ["n"]⟩

def namedRow (name : String) (place : Nat) : RecordKey × Record :=
  (.text name, [("n", .text name), ("p", .text (toString place))])

def fourTerms : List (Combinator × List (RecordKey × Record)) :=
  [(.union, [namedRow "a" 1, namedRow "b" 2, namedRow "a" 3, namedRow "c" 4]),
    (.except, [namedRow "a" 5, namedRow "d" 6]),
    (.union, [namedRow "d" 7, namedRow "a" 8, namedRow "b" 9, namedRow "a" 10, namedRow "d" 11]),
    (.intersect, [namedRow "a" 12, namedRow "b" 13, namedRow "d" 14])]

theorem fold_fourTerms :
    nameFilters.compileSegment fourSets = .ok fourSetsCompiled ∧
      (Fold.run fourSetsCompiled.key (fourSetsCompiled.sets.zip (fourTerms.map fun term => term.2.map Prod.snd))).2 =
        .ok ([namedRow "b" 2, namedRow "d" 7, namedRow "a" 8].map Prod.snd) := by
  have compiled : nameFilters.compileSegment fourSets = .ok fourSetsCompiled := by cbv
  have valid : ∀ records ∈ fourTerms.map fun term => term.2.map Prod.snd, ∀ a ∈ records,
      fourSetsCompiled.HasKey a := by
    intro records hrecords a ha
    fin_cases hrecords <;> fin_cases ha <;> exact ⟨["n"], _, rfl, rfl⟩
  obtain ⟨field, head, first, terms, hkey, hhead, hfirst, reads, result, -⟩ :=
    fold_stages compiled (by decide) rfl valid
  cases hkey
  cases hhead
  cases hfirst.symm.trans (show _ = Except.ok [namedRow "a" 1, namedRow "b" 2, namedRow "a" 3, namedRow "c" 4] by cbv)
  have same : terms = fourTerms.tail :=
    Fold.reads_rightUnique.forall₂ reads
      (.cons ⟨rfl, by rfl⟩ (.cons ⟨rfl, by rfl⟩ (.cons ⟨rfl, by rfl⟩ .nil)))
  have joins : joinedAll (firsts [namedRow "a" 1, namedRow "b" 2, namedRow "a" 3, namedRow "c" 4]) fourTerms.tail =
      [namedRow "b" 2, namedRow "d" 7, namedRow "a" 8] := by cbv
  refine ⟨compiled, ?_⟩
  rw [result, same, joins]

end Compiler

end RecordFilter
