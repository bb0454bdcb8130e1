import Mathlib
import RecordFilter.Proofs.Group.Basic
import RecordFilter.Proofs.Segment.Compiled
import RecordFilter.Proofs.Segment.Workers

set_option autoImplicit false

namespace RecordFilter

namespace Compiler

variable (k : Compiler)

theorem compileGroupAt_of_isEmpty {g : ConditionGroup} (h : g.isEmpty = true) (level : Nat) :
    k.compileGroupAt level g =
      if k.config.maxGroupDepth < level then .error (.nestingTooDeep k.config.maxGroupDepth) else .ok none := by
  obtain ⟨sort, connector, conditions, subgroups⟩ := g
  rw [ConditionGroup.isEmpty, Bool.and_eq_true, List.isEmpty_iff, List.isEmpty_iff] at h
  obtain ⟨rfl, rfl⟩ := h
  rw [compileGroupAt, mapM_compileSubgroups]
  cases connector <;> simp [HasUniqueSorts, sortByKey, join, pure, Except.pure, bind, Except.bind]

theorem compileSet_of_isEmpty {set : ConditionSet} (h : set.group.isEmpty = true) (combinator : Option Combinator) :
    k.compileSet set combinator =
      if k.config.maxGroupDepth = 0 then .error (.nestingTooDeep 0) else .ok ⟨set.sort, combinator, .always⟩ := by
  rw [compileSet, compileGroup, k.compileGroupAt_of_isEmpty h]
  by_cases shallow : k.config.maxGroupDepth = 0
  · rw [if_pos shallow, if_pos (by omega), shallow]
    rfl
  · rw [if_neg shallow, if_neg (by omega)]
    rfl

/-- In place of no set, one whose group is empty changes nothing but for the set itself, if groups are allowed. -/
theorem compileSegment_singleton {segment : Segment} {c : CompiledSegment} (h : k.compileSegment segment = .ok c)
    {set : ConditionSet} (isEmpty : set.group.isEmpty = true) :
    k.compileSegment { segment with sets := [set] } =
      if k.config.maxGroupDepth = 0 then .error (.nestingTooDeep 0)
      else .ok ⟨[⟨set.sort, none, .always⟩], c.orders, c.page, none⟩ := by
  by_cases shallow : k.config.maxGroupDepth = 0
  · rw [if_pos shallow]
    have refused : k.compileSet set none = .error (.nestingTooDeep 0) := by
      rw [k.compileSet_of_isEmpty isEmpty, if_pos shallow]
    rw [compileSegment, if_neg (not_not.2 (hasUniqueSorts_singleton _ _)), sortByKey_singleton]
    simp only [combinators, laterCombinators, Except.map, List.zip_cons_cons, Outcome.mapM_cons, bind, Except.bind,
      refused]
  · rw [if_neg shallow, k.compileSegment_eq_ok_iff]
    have compiled := k.compileSegment_eq_ok_iff.1 h
    refine ⟨hasUniqueSorts_singleton _ _, ?_, compiled.orders, compiled.page, rfl⟩
    rw [sortByKey_singleton]
    refine .cons ?_ .nil
    rw [k.compileSet_of_isEmpty isEmpty, if_neg shallow]

end Compiler

namespace FixedSource

section Agreement

variable {α : Type} [HasFields α] [Sorter] (f : FixedSource α)

theorem outcome_singleton {c : CompiledSegment} (bare : c.sets = []) (sort : Int64) :
    f.outcome ⟨[⟨sort, none, .always⟩], c.orders, c.page, none⟩ = f.outcome c := by
  have single : f.combined ⟨[⟨sort, none, .always⟩], c.orders, c.page, none⟩ = f.answer .always := by
    rw [combined_of_ne_nil f (List.cons_ne_nil _ _), Outcome.mapM_cons]
    cases f.answer .always <;> rfl
  have all : f.combined c = f.answer .always := by
    rw [combined, bare]
    rfl
  rw [outcome, outcome, single, all]
  rfl

theorem executeParallel_eq_outcome (c : CompiledSegment) {schedule : List WorkerStep}
    (calm : WorkerStep.cancel ∉ schedule) : (c.executeParallel f.source schedule false).result = f.outcome c :=
  f.isLawful_source.executeParallel_result c calm (f.isCancelled_source false)

/-- Over fixed answers, with no one to raise the flag, every way to run a segment gives the same page or the same
error; and a segment without sets gives what it gives with one set whose group is empty, where that compiles. -/
theorem executions_agree :
    (∀ (c : CompiledSegment) (schedule : List WorkerStep), WorkerStep.cancel ∉ schedule →
      (c.executeParallel f.source schedule false).result = (c.execute f.source false).result ∧
        (c.executeAsync f.source false).result = (c.execute f.source false).result) ∧
      ∀ (k : Compiler) (segment : Segment) (c : CompiledSegment) (set : ConditionSet), segment.sets = [] →
        set.group.isEmpty = true → k.compileSegment segment = .ok c →
        k.config.maxGroupDepth = 0 ∧
            k.compileSegment { segment with sets := [set] } = .error (.nestingTooDeep 0) ∨
          ∃ c', k.compileSegment { segment with sets := [set] } = .ok c' ∧
            (c'.execute f.source false).result = (c.execute f.source false).result := by
  constructor
  · intro c schedule calm
    rw [f.executeParallel_eq_outcome c calm, f.execute_result, f.executeAsync_result]
    exact ⟨rfl, rfl⟩
  · intro k segment c set bare isEmpty h
    have replaced := k.compileSegment_singleton h isEmpty
    by_cases shallow : k.config.maxGroupDepth = 0
    · rw [if_pos shallow] at replaced
      exact Or.inl ⟨shallow, replaced⟩
    · rw [if_neg shallow] at replaced
      have without : c.sets = [] := by
        have compiled := (k.compileSegment_eq_ok_iff.1 h).length_sets
        rw [bare] at compiled
        exact List.length_eq_zero_iff.1 compiled
      refine Or.inr ⟨_, replaced, ?_⟩
      rw [f.execute_result, f.execute_result, f.outcome_singleton without]

end Agreement

def listing : FixedSource Record :=
  .store fun
    | .always => .ok [[("id", .text "p")], [("id", .text "q")]]
    | .isNull _ => .error (.source "no index")
    | _ => .error (.source "no scan")

def absentThenPresent : CompiledSegment :=
  ⟨[⟨1, none, .isNull ["id"]⟩, ⟨2, some .union, .isNotNull ["id"]⟩], [], none, some ["id"]⟩

def listingFilters : Compiler := ⟨⟨"rows", [("id", .scalar .text)], none⟩, .standard⟩

/-- The worker of the second set fails first, but the error of the first set is reported. -/
theorem executions_agree_listing :
    WorkerStep.cancel ∉ [WorkerStep.advance 1, .advance 1, .advance 0] ∧
      (absentThenPresent.executeParallel listing.source [.advance 1, .advance 1, .advance 0] false).result =
        .error (.failed (.source "no index")) ∧
      (absentThenPresent.executeAsync listing.source false).result = .error (.failed (.source "no index")) ∧
      ∃ c c', listingFilters.compileSegment ⟨[], none, some ⟨2, 1⟩⟩ = .ok c ∧
        listingFilters.compileSegment ⟨[⟨3, some .union, .empty⟩], none, some ⟨2, 1⟩⟩ = .ok c' ∧
        (c'.execute listing.source false).result = .ok ⟨2, 1, 2, 2, [[("id", .text "q")]]⟩ := by
  have calm : WorkerStep.cancel ∉ [WorkerStep.advance 1, .advance 1, .advance 0] := by decide
  have sequential : (absentThenPresent.execute listing.source false).result =
      .error (.failed (.source "no index")) := rfl
  obtain ⟨agree, replace⟩ := listing.executions_agree
  obtain ⟨parallel, async⟩ := agree absentThenPresent _ calm
  have bare : listingFilters.compileSegment ⟨[], none, some ⟨2, 1⟩⟩ = .ok ⟨[], [], some ⟨2, 1⟩, none⟩ := by cbv
  have page : ((⟨[], [], some ⟨2, 1⟩, none⟩ : CompiledSegment).execute listing.source false).result =
      .ok ⟨2, 1, 2, 2, [[("id", .text "q")]]⟩ := by
    cbv
  rcases replace listingFilters _ _ ⟨3, some .union, .empty⟩ rfl rfl bare with ⟨shallow, -⟩ | ⟨c', compiled, same⟩
  · exact absurd shallow (by decide)
  · exact ⟨calm, parallel.trans sequential, async.trans sequential, _, c', bare, compiled, same.trans page⟩

end FixedSource

end RecordFilter
