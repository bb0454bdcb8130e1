import Mathlib
import RecordFilter.Proofs.Condition.Validity
import RecordFilter.Proofs.Group.Basic

set_option autoImplicit false

namespace RecordFilter

/-- In a tree with `g` at the level, the last group stands at the last level. -/
inductive ConditionGroup.HasAt : ConditionGroup → Nat → ConditionGroup → Nat → Prop where
  | self (g : ConditionGroup) (level : Nat) : HasAt g level g level
  | deeper {g next sub : ConditionGroup} {level m : Nat} (member : next ∈ g.subgroups)
      (rest : HasAt next (level + 1) sub m) : HasAt g level sub m

theorem ConditionGroup.forall_hasAt_iff {P : ConditionGroup → Nat → Prop} {g : ConditionGroup} {level : Nat} :
    (∀ sub m, g.HasAt level sub m → P sub m) ↔
      P g level ∧ ∀ next ∈ g.subgroups, ∀ sub m, next.HasAt (level + 1) sub m → P sub m := by
  constructor
  · intro h
    exact ⟨h g level (.self g level), fun next member sub m rest => h sub m (.deeper member rest)⟩
  · rintro ⟨here, inside⟩ sub m h
    cases h with
    | self => exact here
    | deeper member rest => exact inside _ member sub m rest

namespace Compiler

variable (k : Compiler)

structure PermitsGroup (g : ConditionGroup) (level : Nat) : Prop where
  level_le : level ≤ k.config.maxGroupDepth
  uniqueConditions : HasUniqueSorts Condition.sort g.conditions
  uniqueSubgroups : HasUniqueSorts ConditionGroup.sort g.subgroups
  conditions : ∀ c ∈ g.conditions, k.Permits c

/-- What may be wrong with a group at a level, its subgroups apart, and the error that tells it. -/
inductive FaultsGroup (g : ConditionGroup) (level : Nat) : FilterError → Prop where
  | tooDeep (deep : k.config.maxGroupDepth < level) : FaultsGroup g level (.nestingTooDeep k.config.maxGroupDepth)
  | conditionSorts (again : ¬ HasUniqueSorts Condition.sort g.conditions) : FaultsGroup g level .conditionsUniqueSort
  | subgroupSorts (again : ¬ HasUniqueSorts ConditionGroup.sort g.subgroups) : FaultsGroup g level .subgroupsUniqueSort
  | field {c : Condition} {e : FilterError} (member : c ∈ g.conditions) (unresolved : k.schema.resolve c.field = .error e) :
      FaultsGroup g level e
  | values {c : Condition} {e : FilterError} (member : c ∈ g.conditions)
      (refused : c.literals k.config.maxInValues = .error e) : FaultsGroup g level e

theorem exists_compileGroupAt_iff_members (g : ConditionGroup) (level : Nat) :
    (∃ r, k.compileGroupAt level g = .ok r) ↔
      k.PermitsGroup g level ∧ ∀ next ∈ g.subgroups, ∃ r, k.compileGroupAt (level + 1) next = .ok r := by
  have ownMembers (c : Condition) : c ∈ sortByKey Condition.sort g.conditions ↔ c ∈ g.conditions :=
    (sortByKey_perm _ _).mem_iff
  have nestedMembers (next : ConditionGroup) : next ∈ sortByKey ConditionGroup.sort g.subgroups ↔ next ∈ g.subgroups :=
    (sortByKey_perm _ _).mem_iff
  constructor
  · rintro ⟨r, h⟩
    obtain ⟨own, nested, compiled, -⟩ := k.compileGroupAt_eq_ok_iff.1 h
    have conditions := Outcome.exists_mapM_ok_iff.1 ⟨own, Outcome.mapM_eq_ok_iff.2 compiled.own⟩
    have subgroups := Outcome.exists_mapM_ok_iff.1 ⟨nested, Outcome.mapM_eq_ok_iff.2 compiled.nested⟩
    refine ⟨⟨compiled.level_le, compiled.uniqueConditions, compiled.uniqueSubgroups, ?_⟩, ?_⟩
    · intro c hc
      exact k.exists_compileCondition_iff.1 (conditions c ((ownMembers c).2 hc))
    · intro next hnext
      exact subgroups next ((nestedMembers next).2 hnext)
  · rintro ⟨here, below⟩
    obtain ⟨own, hown⟩ := Outcome.exists_mapM_ok_iff.2 fun c hc =>
      k.exists_compileCondition_iff.2 (here.conditions c ((ownMembers c).1 hc))
    obtain ⟨nested, hnested⟩ := Outcome.exists_mapM_ok_iff.2 fun next hnext => below next ((nestedMembers next).1 hnext)
    exact ⟨_, k.compileGroupAt_eq_ok_iff.2 ⟨own, nested, ⟨here.level_le, here.uniqueConditions, here.uniqueSubgroups,
      Outcome.mapM_eq_ok_iff.1 hown, Outcome.mapM_eq_ok_iff.1 hnested⟩, rfl⟩⟩

theorem exists_compileGroupAt_iff (g : ConditionGroup) (level : Nat) :
    (∃ r, k.compileGroupAt level g = .ok r) ↔ ∀ sub m, g.HasAt level sub m → k.PermitsGroup sub m := by
  induction g using ConditionGroup.induction generalizing level with
  | mk sort connector conditions subgroups ih =>
    rw [exists_compileGroupAt_iff_members, ConditionGroup.forall_hasAt_iff]
    exact and_congr_right fun _ => forall₂_congr fun next hnext => ih next hnext (level + 1)

/-- Of a group that does not compile, either it or a subgroup that does not compile is at fault. -/
theorem compileGroupAt_eq_error {g : ConditionGroup} {level : Nat} {e : FilterError}
    (h : k.compileGroupAt level g = .error e) :
    k.FaultsGroup g level e ∨ ∃ next ∈ g.subgroups, k.compileGroupAt (level + 1) next = .error e := by
  obtain ⟨sort, connector, conditions, subgroups⟩ := g
  rw [compileGroupAt, mapM_compileSubgroups] at h
  simp only [Outcome.ite_error_eq_error_iff, Outcome.bind_eq_error_iff, reduceCtorEq, and_false, exists_false,
    or_false] at h
  rcases h with ⟨deep, rfl⟩ | ⟨-, ⟨again, rfl⟩ | ⟨-, ⟨again, rfl⟩ | ⟨-, hown | ⟨own, -, hnested⟩⟩⟩⟩
  · exact Or.inl (.tooDeep deep)
  · exact Or.inl (.conditionSorts again)
  · exact Or.inl (.subgroupSorts again)
  · obtain ⟨c, hc, refused⟩ := Outcome.exists_of_mapM_eq_error hown
    have member : c ∈ conditions := (sortByKey_perm _ _).mem_iff.1 hc
    rcases k.compileCondition_eq_error refused with unresolved | refused
    · exact Or.inl (.field member unresolved)
    · exact Or.inl (.values member refused)
  · obtain ⟨next, hnext, refused⟩ := Outcome.exists_of_mapM_eq_error hnested
    exact Or.inr ⟨next, (sortByKey_perm _ _).mem_iff.1 hnext, refused⟩

theorem exists_faultsGroup (g : ConditionGroup) {level : Nat} {e : FilterError}
    (h : k.compileGroupAt level g = .error e) : ∃ sub m, g.HasAt level sub m ∧ k.FaultsGroup sub m e := by
  induction g using ConditionGroup.induction generalizing level with
  | mk sort connector conditions subgroups ih =>
    rcases k.compileGroupAt_eq_error h with here | ⟨next, hnext, refused⟩
    · exact ⟨_, level, .self _ level, here⟩
    · obtain ⟨sub, m, stands, fault⟩ := ih next hnext refused
      exact ⟨sub, m, .deeper hnext stands, fault⟩

/-- A tree compiles if and only if every group in it keeps to the limits, the outermost at level 1; of one that does
not compile a fault is told that one of its groups has, and that is none in building predicates from values that were
read. -/
theorem compileGroup_succeeds_iff (g : ConditionGroup) :
    ((∃ p, k.compileGroup g = .ok p) ↔ ∀ sub level, g.HasAt 1 sub level → k.PermitsGroup sub level) ∧
      (∀ e, k.compileGroup g = .error e → ∃ sub level, g.HasAt 1 sub level ∧ k.FaultsGroup sub level e) ∧
      ∀ (c : Condition) (path : ResolvedPath) (ls : List Literal), c.literals k.config.maxInValues = .ok ls →
        ∃ p, c.predicate path ls = .ok p := by
  refine ⟨?_, ?_, fun c path ls h => Condition.exists_predicate h path⟩
  · rw [← exists_compileGroupAt_iff]
    simp only [compileGroup, Outcome.map_eq_ok_iff]
    constructor
    · rintro ⟨p, r, hr, -⟩
      exact ⟨r, hr⟩
    · rintro ⟨r, hr⟩
      exact ⟨_, r, hr, rfl⟩
  · intro e h
    exact k.exists_faultsGroup g (Outcome.map_eq_error_iff.1 h)

def shallowFilters : Compiler := ⟨⟨"rows", [("n", .scalar .number)], none⟩, { Config.standard with maxGroupDepth := 1 }⟩

def missingNumber (subgroups : List ConditionGroup) : ConditionGroup :=
  ⟨1, .and, [⟨1, "n", .number, .isNull, []⟩], subgroups⟩

/-- A subgroup that stands too deep is refused also if there is nothing in it. -/
theorem compileGroup_missingNumber :
    (∃ p, shallowFilters.compileGroup (missingNumber []) = .ok p) ∧
      ¬ ∃ p, shallowFilters.compileGroup (missingNumber [.empty]) = .ok p := by
  constructor
  · rw [(shallowFilters.compileGroup_succeeds_iff _).1]
    intro sub level stands
    cases stands with
    | deeper member _ => cases member
    | self =>
      refine ⟨by decide, by decide, by decide, ?_⟩
      intro c hc
      obtain rfl : c = ⟨1, "n", .number, .isNull, []⟩ := List.mem_singleton.1 hc
      exact ⟨⟨⟨[⟨"n", 0⟩], .number⟩, by cbv⟩, rfl, rfl, by simp, by simp⟩
  · rw [(shallowFilters.compileGroup_succeeds_iff _).1]
    intro permitted
    have inner := permitted .empty 2 (.deeper (List.mem_singleton_self _) (.self _ _))
    exact absurd inner.level_le (by decide)

end Compiler

end RecordFilter
