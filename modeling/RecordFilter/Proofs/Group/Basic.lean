import RecordFilter.Proofs.Outcome
import RecordFilter.Proofs.Sorting

set_option autoImplicit false

namespace RecordFilter

namespace ConditionGroup

@[elab_as_elim]
theorem induction {motive : ConditionGroup → Prop}
    (mk : ∀ sort connector conditions subgroups, (∀ g ∈ subgroups, motive g) →
      motive ⟨sort, connector, conditions, subgroups⟩) (g : ConditionGroup) : motive g := by
  refine @ConditionGroup.rec motive (fun gs => ∀ g ∈ gs, motive g) mk ?_ ?_ g
  · intro g hg
    cases hg
  · intro g gs hg hgs h hh
    rcases List.mem_cons.1 hh with rfl | hh
    · exact hg
    · exact hgs h hh

theorem allVacuous_eq_all (gs : List ConditionGroup) : allVacuous gs = gs.all isVacuous := by
  induction gs with
  | nil => rfl
  | cons g gs ih => rw [allVacuous, ih, List.all_cons]

theorem isVacuous_iff (g : ConditionGroup) :
    g.isVacuous = true ↔ g.conditions = [] ∧ ∀ sub ∈ g.subgroups, sub.isVacuous = true := by
  cases g
  rw [isVacuous, allVacuous_eq_all, Bool.and_eq_true, List.isEmpty_iff, List.all_eq_true]

end ConditionGroup

namespace Compiler

variable (k : Compiler)

theorem compileSubgroups_eq_map (level : Nat) (gs : List ConditionGroup) :
    k.compileSubgroups level gs = gs.map fun g => (g.sort, k.compileGroupAt level g) := by
  induction gs with
  | nil => rfl
  | cons g gs ih => rw [compileSubgroups, ih, List.map_cons]

theorem mapM_compileSubgroups (level : Nat) (gs : List ConditionGroup) :
    (sortByKey Prod.fst (k.compileSubgroups level gs)).mapM Prod.snd =
      (sortByKey ConditionGroup.sort gs).mapM (k.compileGroupAt level) := by
  rw [compileSubgroups_eq_map, sortByKey_map, List.mapM_map]
  rfl

structure CompilesTo (level : Nat) (g : ConditionGroup) (own : List Predicate) (nested : List (Option Predicate)) :
    Prop where
  level_le : level ≤ k.config.maxGroupDepth
  uniqueConditions : HasUniqueSorts Condition.sort g.conditions
  uniqueSubgroups : HasUniqueSorts ConditionGroup.sort g.subgroups
  own : List.Forall₂ (fun c p => k.compileCondition c = .ok p) (sortByKey Condition.sort g.conditions) own
  nested : List.Forall₂ (fun sub r => k.compileGroupAt (level + 1) sub = .ok r)
    (sortByKey ConditionGroup.sort g.subgroups) nested

theorem compileGroupAt_eq_ok_iff {level : Nat} {g : ConditionGroup} {r : Option Predicate} :
    k.compileGroupAt level g = .ok r ↔
      ∃ own nested, k.CompilesTo level g own nested ∧ join g.connector (own ++ nested.filterMap id) = r := by
  obtain ⟨sort, connector, conditions, subgroups⟩ := g
  rw [compileGroupAt, mapM_compileSubgroups]
  simp only [Outcome.ite_error_eq_ok_iff, Outcome.bind_eq_ok_iff, Outcome.mapM_eq_ok_iff, Except.ok.injEq, not_not]
  constructor
  · rintro ⟨level_le, uniqueConditions, uniqueSubgroups, own, hown, nested, hnested, joined⟩
    exact ⟨own, nested, ⟨by omega, uniqueConditions, uniqueSubgroups, hown, hnested⟩, joined⟩
  · rintro ⟨own, nested, h, joined⟩
    have level_le := h.level_le
    exact ⟨by omega, h.uniqueConditions, h.uniqueSubgroups, own, h.own, nested, h.nested, joined⟩

end Compiler

end RecordFilter
