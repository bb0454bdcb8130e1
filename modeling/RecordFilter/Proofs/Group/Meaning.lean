import Mathlib
import RecordFilter.Proofs.Group.Basic

set_option autoImplicit false

namespace RecordFilter

def Connector.joins : Connector → List Bool → Bool
  | and, bs => bs.all id
  | or, bs => bs.any id

theorem Connector.joins_perm (connector : Connector) {as bs : List Bool} (h : as.Perm bs) :
    connector.joins as = connector.joins bs := by
  cases connector with
  | and => exact h.all_eq
  | or => exact h.any_eq

namespace ConditionGroup

variable (test : Condition → Bool)

mutual

def meaning : ConditionGroup → Bool
  | ⟨_, connector, conditions, subgroups⟩ => connector.joins (conditions.map test ++ meanings subgroups)

def meanings : List ConditionGroup → List Bool
  | [] => []
  | g :: gs => if g.isVacuous then meanings gs else meaning g :: meanings gs

end

/-- What a group says as a whole filter, where it keeps everything if it is vacuous. -/
def keeps (g : ConditionGroup) : Bool := g.isVacuous || g.meaning test

mutual

def allConditions : ConditionGroup → List Condition
  | ⟨_, _, conditions, subgroups⟩ => conditions ++ conditionsOfAll subgroups

def conditionsOfAll : List ConditionGroup → List Condition
  | [] => []
  | g :: gs => allConditions g ++ conditionsOfAll gs

end

mutual

def prune : ConditionGroup → ConditionGroup
  | ⟨sort, connector, conditions, subgroups⟩ => ⟨sort, connector, conditions, pruneAll subgroups⟩

def pruneAll : List ConditionGroup → List ConditionGroup
  | [] => []
  | g :: gs => if g.isVacuous then pruneAll gs else prune g :: pruneAll gs

end

theorem meanings_eq_map (gs : List ConditionGroup) :
    meanings test gs = (gs.filter fun g => !g.isVacuous).map (meaning test) := by
  induction gs with
  | nil => rfl
  | cons g gs ih => cases h : g.isVacuous <;> simp [meanings, h, ih]

theorem meanings_eq_nil_iff (gs : List ConditionGroup) :
    meanings test gs = [] ↔ ∀ g ∈ gs, g.isVacuous = true := by
  simp [meanings_eq_map, List.filter_eq_nil_iff]

theorem meanings_perm {gs hs : List ConditionGroup} (h : gs.Perm hs) :
    (meanings test gs).Perm (meanings test hs) := by
  simp only [meanings_eq_map]
  exact (h.filter _).map _

theorem conditionsOfAll_eq_flatMap (gs : List ConditionGroup) : conditionsOfAll gs = gs.flatMap allConditions := by
  induction gs with
  | nil => rfl
  | cons g gs ih => rw [conditionsOfAll, ih, List.flatMap_cons]

theorem pruneAll_eq_map (gs : List ConditionGroup) :
    pruneAll gs = (gs.filter fun g => !g.isVacuous).map prune := by
  induction gs with
  | nil => rfl
  | cons g gs ih => cases h : g.isVacuous <;> simp [pruneAll, h, ih]

theorem isVacuous_prune (g : ConditionGroup) : g.prune.isVacuous = g.isVacuous := by
  induction g using induction with
  | mk sort connector conditions subgroups ih =>
    rw [Bool.eq_iff_iff, isVacuous_iff, isVacuous_iff]
    simp only [prune, pruneAll_eq_map, List.mem_map, List.mem_filter]
    refine and_congr_right fun _ => ⟨fun h sub hsub => ?_, fun h sub hsub => ?_⟩
    · cases vacuous : sub.isVacuous with
      | true => rfl
      | false =>
        have := h sub.prune ⟨sub, ⟨hsub, by rw [vacuous]; rfl⟩, rfl⟩
        rw [ih sub hsub, vacuous] at this
        exact this
    · obtain ⟨g, ⟨hg, -⟩, rfl⟩ := hsub
      rw [ih g hg]
      exact h g hg

theorem meaning_prune (g : ConditionGroup) : g.prune.meaning test = g.meaning test := by
  induction g using induction with
  | mk sort connector conditions subgroups ih =>
    have same : meanings test (pruneAll subgroups) = meanings test subgroups := by
      simp only [meanings_eq_map, pruneAll_eq_map, List.filter_map, List.map_map]
      rw [List.filter_filter]
      have kept : (subgroups.filter fun g => ((fun g => !g.isVacuous) ∘ prune) g && !g.isVacuous) =
          subgroups.filter fun g => !g.isVacuous := by
        refine List.filter_congr fun g _ => ?_
        rw [Function.comp_apply, isVacuous_prune, Bool.and_self]
      rw [kept]
      exact List.map_congr_left fun g hg => ih g (List.mem_filter.1 hg).1
    rw [prune, meaning, same, meaning]

theorem keeps_prune (g : ConditionGroup) : g.prune.keeps test = g.keeps test := by
  rw [keeps, isVacuous_prune, meaning_prune, keeps]

end ConditionGroup

namespace Compiler

variable (k : Compiler)

def conditionHolds (c : Condition) (v : Value) : Bool :=
  match k.compileCondition c with
  | .ok p => p.holds v
  | .error _ => false

theorem conditionHolds_of_ok {c : Condition} {p : Predicate} (h : k.compileCondition c = .ok p) (v : Value) :
    k.conditionHolds c v = p.holds v := by
  rw [conditionHolds, h]

/-- Whether a fragment stands for a group: there is none of a vacuous group, and any other has its meaning. -/
def Represents (v : Value) (g : ConditionGroup) : Option Predicate → Prop
  | none => g.isVacuous = true
  | some p => g.isVacuous = false ∧ p.holds v = g.meaning fun c => k.conditionHolds c v

theorem map_holds_of_compiled (v : Value) {conditions : List Condition} {own : List Predicate}
    (h : List.Forall₂ (fun c p => k.compileCondition c = .ok p) conditions own) :
    (own.map fun p => p.holds v) = conditions.map fun c => k.conditionHolds c v := by
  induction h with
  | nil => rfl
  | cons hp _ ih => rw [List.map_cons, List.map_cons, ih, conditionHolds_of_ok k hp]

theorem map_holds_of_represents (v : Value) {gs : List ConditionGroup} {nested : List (Option Predicate)}
    (h : List.Forall₂ (k.Represents v) gs nested) :
    ((nested.filterMap id).map fun p => p.holds v) = ConditionGroup.meanings (fun c => k.conditionHolds c v) gs := by
  induction h with
  | nil => rfl
  | @cons g r gs nested hr _ ih =>
    cases r with
    | none =>
      have vacuous : g.isVacuous = true := hr
      simpa [ConditionGroup.meanings, vacuous] using ih
    | some p =>
      obtain ⟨vacuous, hp⟩ := hr
      simpa [ConditionGroup.meanings, vacuous, hp] using ih

theorem holds_of_join {connector : Connector} {parts : List Predicate} {p : Predicate}
    (h : join connector parts = some p) (v : Value) : p.holds v = connector.joins (parts.map fun q => q.holds v) := by
  cases parts with
  | nil => cases connector <;> cases h
  | cons q qs =>
    cases connector with
    | and =>
      cases h
      rw [Predicate.holds_conjunction, Connector.joins, List.all_map]
      rfl
    | or =>
      cases h
      rw [Predicate.holds_disjunction, Connector.joins, List.any_map]
      rfl

theorem join_eq_none_iff (connector : Connector) (parts : List Predicate) :
    join connector parts = none ↔ parts = [] := by
  cases parts <;> cases connector <;> simp [join]

theorem compileGroupAt_represents (v : Value) (g : ConditionGroup) {level : Nat} {r : Option Predicate}
    (h : k.compileGroupAt level g = .ok r) : k.Represents v g r := by
  induction g using ConditionGroup.induction generalizing level r with
  | mk sort connector conditions subgroups ih =>
    obtain ⟨own, nested, compiled, joined⟩ := (k.compileGroupAt_eq_ok_iff).1 h
    have nestedMean : List.Forall₂ (k.Represents v) (sortByKey ConditionGroup.sort subgroups) nested := by
      have members : ∀ g ∈ sortByKey ConditionGroup.sort subgroups, g ∈ subgroups :=
        fun g => (sortByKey_perm ConditionGroup.sort subgroups).mem_iff.1
      refine ((List.forall₂_and_left _ _).2 ⟨members, compiled.nested⟩).imp ?_
      rintro g r ⟨hg, hr⟩
      exact ih g hg hr
    have parts : ((own ++ nested.filterMap id).map fun p => p.holds v).Perm
        (conditions.map (fun c => k.conditionHolds c v) ++
          ConditionGroup.meanings (fun c => k.conditionHolds c v) subgroups) := by
      rw [List.map_append, map_holds_of_compiled k v compiled.own, map_holds_of_represents k v nestedMean]
      exact ((sortByKey_perm _ _).map _).append (ConditionGroup.meanings_perm _ (sortByKey_perm _ _))
    have empty : own ++ nested.filterMap id = [] ↔
        (ConditionGroup.mk sort connector conditions subgroups).isVacuous = true := by
      rw [ConditionGroup.isVacuous_iff, ← ConditionGroup.meanings_eq_nil_iff fun c => k.conditionHolds c v,
        ← List.map_eq_nil_iff (f := fun p : Predicate => p.holds v), ← List.length_eq_zero_iff, parts.length_eq]
      simp
    cases r with
    | none => exact empty.1 ((join_eq_none_iff _ _).1 joined)
    | some p =>
      refine ⟨?_, ?_⟩
      · rw [← Bool.not_eq_true, ← empty, ← join_eq_none_iff connector, joined]
        simp
      · rw [holds_of_join joined v, Connector.joins_perm _ parts, ConditionGroup.meaning]

theorem compileGroup_holds {g : ConditionGroup} {p : Predicate} (h : k.compileGroup g = .ok p) (v : Value) :
    p.holds v = g.keeps fun c => k.conditionHolds c v := by
  obtain ⟨r, hr, rfl⟩ := Outcome.map_eq_ok_iff.1 h
  have represents := k.compileGroupAt_represents v g hr
  cases r with
  | none =>
    have vacuous : g.isVacuous = true := represents
    rw [Option.getD_none, Predicate.holds, ConditionGroup.keeps, vacuous, Bool.true_or]
  | some p =>
    obtain ⟨vacuous, hp⟩ := represents
    rw [Option.getD_some, hp, ConditionGroup.keeps, vacuous, Bool.false_or]

theorem compileGroupAt_conditions (g : ConditionGroup) {level : Nat} {r : Option Predicate}
    (h : k.compileGroupAt level g = .ok r) : ∀ c ∈ g.allConditions, ∃ p, k.compileCondition c = .ok p := by
  induction g using ConditionGroup.induction generalizing level r with
  | mk sort connector conditions subgroups ih =>
    obtain ⟨own, nested, compiled, -⟩ := (k.compileGroupAt_eq_ok_iff).1 h
    intro c hc
    rw [ConditionGroup.allConditions, ConditionGroup.conditionsOfAll_eq_flatMap, List.mem_append,
      List.mem_flatMap] at hc
    rcases hc with hc | ⟨sub, hsub, hc⟩
    · obtain ⟨p, -, hp⟩ := Outcome.exists_of_forall₂_of_mem compiled.own ((sortByKey_perm _ _).mem_iff.2 hc)
      exact ⟨p, hp⟩
    · obtain ⟨r, -, hr⟩ := Outcome.exists_of_forall₂_of_mem compiled.nested ((sortByKey_perm _ _).mem_iff.2 hsub)
      exact ih sub hsub hr c hc

/-- A compiled group accepts what its tree means, by the own predicates of its conditions, and trees that differ in
vacuous subgroups alone accept the same. -/
theorem compileGroup_accepts {α : Type} [HasFields α] {g : ConditionGroup} {p : Predicate}
    (h : k.compileGroup g = .ok p) :
    (∀ c ∈ g.allConditions, ∃ q, k.compileCondition c = .ok q) ∧
      (∀ a : α, p.accepts a = g.keeps fun c => k.conditionHolds c (scope a)) ∧
      ∀ g' p', k.compileGroup g' = .ok p' → g'.prune = g.prune → ∀ a : α, p'.accepts a = p.accepts a := by
  refine ⟨?_, fun a => k.compileGroup_holds h (scope a), fun g' p' h' pruned a => ?_⟩
  · obtain ⟨r, hr, -⟩ := Outcome.map_eq_ok_iff.1 h
    exact k.compileGroupAt_conditions g hr
  · calc
      p'.accepts a = g'.keeps fun c => k.conditionHolds c (scope a) := k.compileGroup_holds h' (scope a)
      _ = g'.prune.keeps fun c => k.conditionHolds c (scope a) := (ConditionGroup.keeps_prune _ g').symm
      _ = g.keeps fun c => k.conditionHolds c (scope a) := by rw [pruned, ConditionGroup.keeps_prune]
      _ = p.accepts a := (k.compileGroup_holds h (scope a)).symm

def numberFilters : Compiler := ⟨⟨"rows", [("n", .scalar .number)], none⟩, .standard⟩

def missingOrNothing : ConditionGroup :=
  ⟨1, .or, [⟨1, "n", .number, .isNull, []⟩], [⟨1, .and, [], []⟩, ⟨2, .or, [], [⟨1, .and, [], []⟩]⟩]⟩

theorem missingOrNothing_accepts :
    numberFilters.compileGroup missingOrNothing = .ok (.isNull ["n"]) ∧
      (Predicate.isNull ["n"]).accepts ([] : Record) =
        missingOrNothing.keeps (fun c => numberFilters.conditionHolds c (scope ([] : Record))) ∧
      missingOrNothing.keeps (fun c => numberFilters.conditionHolds c (.record [("n", .bool true)])) = false := by
  have compiled : numberFilters.compileGroup missingOrNothing = .ok (.isNull ["n"]) := by cbv
  have accepts := (numberFilters.compileGroup_accepts (α := Record) compiled).2.1
  exact ⟨compiled, accepts [], (accepts [("n", .bool true)]).symm.trans (by cbv)⟩

end Compiler

end RecordFilter
