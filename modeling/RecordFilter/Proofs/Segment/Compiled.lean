import RecordFilter.Compiler.Segment
import RecordFilter.Proofs.Outcome
import RecordFilter.Proofs.Sorting

set_option autoImplicit false

namespace RecordFilter.Compiler

variable (k : Compiler)

theorem laterCombinators_eq_ok_iff {sets : List ConditionSet} {cs : List (Option Combinator)} :
    laterCombinators sets = .ok cs ↔
      (∀ set ∈ sets, set.combinator.isSome = true) ∧ cs = sets.map ConditionSet.combinator := by
  induction sets generalizing cs with
  | nil =>
    rw [laterCombinators, Except.ok.injEq]
    constructor
    · rintro rfl
      exact ⟨by simp, rfl⟩
    · rintro ⟨-, rfl⟩
      rfl
  | cons set sets ih =>
    rw [laterCombinators]
    cases h : set.combinator with
    | none => simp [h]
    | some c =>
      simp only [Outcome.map_eq_ok_iff, ih, List.forall_mem_cons, List.map_cons, h, Option.isSome_some, true_and]
      constructor
      · rintro ⟨cs, ⟨present, rfl⟩, rfl⟩
        exact ⟨present, rfl⟩
      · rintro ⟨present, rfl⟩
        exact ⟨_, ⟨present, rfl⟩, rfl⟩

def LaterCompiles (set : ConditionSet) (c : CompiledSet) : Prop :=
  set.combinator.isSome = true ∧ k.compileSet set set.combinator = .ok c

inductive SetsCompile : List ConditionSet → List CompiledSet → Prop where
  | nil : SetsCompile [] []
  | cons {first : ConditionSet} {rest : List ConditionSet} {c : CompiledSet} {cs : List CompiledSet}
      (first_ok : k.compileSet first none = .ok c) (rest_ok : List.Forall₂ k.LaterCompiles rest cs) :
      SetsCompile (first :: rest) (c :: cs)

theorem mapM_compileSet_later {sets : List ConditionSet} {cs : List CompiledSet} :
    ((sets.zip (sets.map ConditionSet.combinator)).mapM fun (set, c) => k.compileSet set c) = .ok cs ↔
      List.Forall₂ (fun set c => k.compileSet set set.combinator = .ok c) sets cs := by
  rw [← List.map_prod_left_eq_zip, Outcome.mapM_eq_ok_iff, List.forall₂_map_left_iff]

theorem setsCompile_iff {sets : List ConditionSet} {cs : List CompiledSet} :
    k.SetsCompile sets cs ↔
      ∃ combs, combinators sets = .ok combs ∧
        ((sets.zip combs).mapM fun (set, c) => k.compileSet set c) = .ok cs := by
  cases sets with
  | nil =>
    simp only [combinators, Except.ok.injEq, exists_eq_left', List.zip_nil_left, Outcome.mapM_eq_ok_iff,
      List.forall₂_nil_left_iff]
    constructor
    · intro h
      cases h
      rfl
    · rintro rfl
      exact .nil
  | cons first rest =>
    rw [combinators]
    simp only [Outcome.map_eq_ok_iff, laterCombinators_eq_ok_iff]
    constructor
    · intro h
      cases h with
      | cons first_ok rest_ok =>
        obtain ⟨present, compiled⟩ := (List.forall₂_and_left _ _).1 rest_ok
        refine ⟨_, ⟨_, ⟨present, rfl⟩, rfl⟩, ?_⟩
        rw [List.zip_cons_cons, Outcome.mapM_cons, Outcome.bind_eq_ok_iff]
        refine ⟨_, first_ok, ?_⟩
        rw [k.mapM_compileSet_later.2 compiled]
        rfl
    · rintro ⟨combs, ⟨later, ⟨present, rfl⟩, rfl⟩, compiled⟩
      rw [List.zip_cons_cons, Outcome.mapM_cons, Outcome.bind_eq_ok_iff] at compiled
      obtain ⟨c, first_ok, compiled⟩ := compiled
      obtain ⟨cs, rest_ok, rfl⟩ := Outcome.map_eq_ok_iff.1 compiled
      exact .cons first_ok ((List.forall₂_and_left _ _).2 ⟨present, k.mapM_compileSet_later.1 rest_ok⟩)

theorem SetsCompile.length_eq {sets : List ConditionSet} {cs : List CompiledSet} (h : k.SetsCompile sets cs) :
    cs.length = sets.length := by
  cases h with
  | nil => rfl
  | cons _ rest_ok => rw [List.length_cons, List.length_cons, rest_ok.length_eq]

theorem sort_of_compileSet {set : ConditionSet} {combinator : Option Combinator} {c : CompiledSet}
    (h : k.compileSet set combinator = .ok c) : c.sort = set.sort := by
  obtain ⟨p, -, rfl⟩ := Outcome.map_eq_ok_iff.1 h
  rfl

theorem SetsCompile.map_sort {sets : List ConditionSet} {cs : List CompiledSet} (h : k.SetsCompile sets cs) :
    cs.map CompiledSet.sort = sets.map ConditionSet.sort := by
  cases h with
  | nil => rfl
  | @cons first rest c cs first_ok rest_ok =>
    have later : cs.map CompiledSet.sort = rest.map ConditionSet.sort := by
      induction rest_ok with
      | nil => rfl
      | cons h _ ih => rw [List.map_cons, List.map_cons, k.sort_of_compileSet h.2, ih]
    rw [List.map_cons, List.map_cons, k.sort_of_compileSet first_ok, later]

structure CompilesSegment (segment : Segment) (c : CompiledSegment) : Prop where
  uniqueSorts : HasUniqueSorts ConditionSet.sort segment.sets
  sets : k.SetsCompile (sortByKey ConditionSet.sort segment.sets) c.sets
  orders : List.Forall₂ (fun spec o => k.compileOrder spec = .ok o)
    (sortByKey OrderSpec.sort (segment.orders.getD [])) c.orders
  page : k.compilePage segment.page = .ok c.page
  key : (if 1 < c.sets.length then k.recordKeyField.map some else .ok none) = .ok c.key

theorem compileSegment_eq_ok_iff {segment : Segment} {c : CompiledSegment} :
    k.compileSegment segment = .ok c ↔ k.CompilesSegment segment c := by
  rw [compileSegment]
  simp only [Outcome.ite_error_eq_ok_iff, Outcome.ite_bind_eq_ok_iff, Outcome.bind_eq_ok_iff, not_not]
  constructor
  · rintro ⟨uniqueSorts, combs, hcombs, sets, hsets, orders, horders, page, hpage, key, hkey, h⟩
    cases h
    exact ⟨uniqueSorts, k.setsCompile_iff.2 ⟨combs, hcombs, hsets⟩, Outcome.mapM_eq_ok_iff.1 horders, hpage, hkey⟩
  · intro h
    obtain ⟨combs, hcombs, hsets⟩ := k.setsCompile_iff.1 h.sets
    exact ⟨h.uniqueSorts, combs, hcombs, c.sets, hsets, c.orders, Outcome.mapM_eq_ok_iff.2 h.orders, c.page, h.page,
      c.key, h.key, rfl⟩

namespace CompilesSegment

variable {k} {segment : Segment} {c : CompiledSegment}

theorem length_sets (h : k.CompilesSegment segment c) : c.sets.length = segment.sets.length := by
  rw [h.sets.length_eq, (sortByKey_perm ConditionSet.sort segment.sets).length_eq]

theorem pairwise_sort_lt (h : k.CompilesSegment segment c) : c.sets.Pairwise fun a b => a.sort < b.sort := by
  rw [← List.pairwise_map (f := CompiledSet.sort) (R := (· < ·)), h.sets.map_sort, List.pairwise_map]
  exact sortByKey_pairwise_lt h.uniqueSorts

theorem key_eq_none (h : k.CompilesSegment segment c) (few : c.sets.length ≤ 1) : c.key = none := by
  have hkey := h.key
  rw [if_neg (by omega), Except.ok.injEq] at hkey
  exact hkey.symm

theorem exists_key (h : k.CompilesSegment segment c) (several : 1 < c.sets.length) :
    ∃ field, k.recordKeyField = .ok field ∧ c.key = some field := by
  have hkey := h.key
  rw [if_pos several, Outcome.map_eq_ok_iff] at hkey
  obtain ⟨field, hfield, hkey⟩ := hkey
  exact ⟨field, hfield, hkey.symm⟩

theorem page_eq_none (h : k.CompilesSegment segment c) (unpaged : segment.page = none) : c.page = none := by
  have hpage := h.page
  rw [unpaged, compilePage, Except.ok.injEq] at hpage
  exact hpage.symm

end CompilesSegment

end RecordFilter.Compiler
