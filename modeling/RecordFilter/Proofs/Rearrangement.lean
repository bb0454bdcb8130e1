import Mathlib
import RecordFilter.Proofs.Group.Basic
import RecordFilter.Proofs.Segment.Compiled

set_option autoImplicit false

namespace RecordFilter

/-- The group with its conditions and subgroups in another order, at every depth. -/
inductive ConditionGroup.Rearranged : ConditionGroup → ConditionGroup → Prop where
  | intro {sort : Int64} {connector : Connector} {conditions conditions' : List Condition}
      {subgroups inner subgroups' : List ConditionGroup} (conditionsPerm : conditions.Perm conditions')
      (inside : List.Forall₂ Rearranged subgroups inner) (subgroupsPerm : inner.Perm subgroups') :
      Rearranged ⟨sort, connector, conditions, subgroups⟩ ⟨sort, connector, conditions', subgroups'⟩

structure ConditionSet.Rearranged (s t : ConditionSet) : Prop where
  sort : s.sort = t.sort
  combinator : s.combinator = t.combinator
  group : s.group.Rearranged t.group

/-- The ordering specs in another order, but those that share a sort value in the same. -/
structure OrderSpec.Rearranged (os ps : List OrderSpec) : Prop where
  perm : os.Perm ps
  stable : ∀ sort, os.filter (fun o => o.sort = sort) = ps.filter fun o => o.sort = sort

structure Segment.Rearranged (s t : Segment) : Prop where
  sets : ∃ inner, List.Forall₂ ConditionSet.Rearranged s.sets inner ∧ inner.Perm t.sets
  orders : Option.Rel OrderSpec.Rearranged s.orders t.orders
  page : s.page = t.page

theorem ConditionGroup.Rearranged.sort_eq {g h : ConditionGroup} (r : g.Rearranged h) : g.sort = h.sort := by
  cases r
  rfl

namespace Compiler

variable (k : Compiler)

theorem compileGroupAt_eq_of_rearranged {g h : ConditionGroup} (r : g.Rearranged h) (level : Nat) :
    k.compileGroupAt level g = k.compileGroupAt level h := by
  induction g using ConditionGroup.induction generalizing h level with
  | mk sort connector conditions subgroups ih =>
    cases r with
    | @intro _ _ _ conditions' _ inner subgroups' conditionsPerm inside subgroupsPerm =>
      have inside' : List.Forall₂ (fun g h => g.sort = h.sort ∧
          k.compileGroupAt (level + 1) g = k.compileGroupAt (level + 1) h) subgroups inner := by
        have members : ∀ g ∈ subgroups, g ∈ subgroups := fun _ member => member
        refine ((List.forall₂_and_left _ _).2 ⟨members, inside⟩).imp ?_
        rintro g h ⟨member, r⟩
        exact ⟨r.sort_eq, ih g member r (level + 1)⟩
      have conditionSorts : HasUniqueSorts Condition.sort conditions ↔ HasUniqueSorts Condition.sort conditions' :=
        hasUniqueSorts_iff_of_perm conditionsPerm
      have subgroupSorts : HasUniqueSorts ConditionGroup.sort subgroups ↔ HasUniqueSorts ConditionGroup.sort subgroups' :=
        (hasUniqueSorts_iff_of_forall₂ (inside'.imp fun _ _ same => same.1)).trans (hasUniqueSorts_iff_of_perm subgroupsPerm)
      rw [compileGroupAt, compileGroupAt, mapM_compileSubgroups, mapM_compileSubgroups]
      simp only [conditionSorts, subgroupSorts]
      by_cases conditionsUnique : HasUniqueSorts Condition.sort conditions'
      case neg => rw [if_pos conditionsUnique, if_pos conditionsUnique]
      by_cases subgroupsUnique : HasUniqueSorts ConditionGroup.sort subgroups'
      case neg => rw [if_pos subgroupsUnique, if_pos subgroupsUnique]
      have own : sortByKey Condition.sort conditions = sortByKey Condition.sort conditions' :=
        sortByKey_eq_of_perm conditionsPerm (conditionSorts.2 conditionsUnique)
      have innerUnique : HasUniqueSorts ConditionGroup.sort inner :=
        (hasUniqueSorts_iff_of_perm subgroupsPerm).2 subgroupsUnique
      have nested : (sortByKey ConditionGroup.sort subgroups).mapM (k.compileGroupAt (level + 1)) =
          (sortByKey ConditionGroup.sort subgroups').mapM (k.compileGroupAt (level + 1)) := by
        rw [← sortByKey_eq_of_perm subgroupsPerm innerUnique]
        refine Outcome.mapM_eq_of_forall₂ ?_
        exact (sortByKey_forall₂ (fun _ _ same => same.1) inside').imp fun _ _ same => same.2
      rw [own, nested]

theorem compileGroup_eq_of_rearranged {g h : ConditionGroup} (r : g.Rearranged h) :
    k.compileGroup g = k.compileGroup h := by
  rw [compileGroup, compileGroup, k.compileGroupAt_eq_of_rearranged r]

theorem laterCombinators_eq_of_rearranged {sets sets' : List ConditionSet}
    (h : List.Forall₂ ConditionSet.Rearranged sets sets') : laterCombinators sets = laterCombinators sets' := by
  induction h with
  | nil => rfl
  | cons r _ ih => rw [laterCombinators, laterCombinators, r.combinator, r.sort, ih]

theorem combinators_eq_of_rearranged {sets sets' : List ConditionSet}
    (h : List.Forall₂ ConditionSet.Rearranged sets sets') : combinators sets = combinators sets' := by
  cases h with
  | nil => rfl
  | cons _ later => rw [combinators, combinators, laterCombinators_eq_of_rearranged later]

theorem mapM_compileSet_eq_of_rearranged {sets sets' : List ConditionSet}
    (h : List.Forall₂ ConditionSet.Rearranged sets sets') (combinators : List (Option Combinator)) :
    ((sets.zip combinators).mapM fun (set, c) => k.compileSet set c) =
      (sets'.zip combinators).mapM fun (set, c) => k.compileSet set c := by
  refine Outcome.mapM_eq_of_forall₂ ?_
  induction h generalizing combinators with
  | nil => exact .nil
  | @cons set set' sets sets' r _ ih =>
    cases combinators with
    | nil => exact .nil
    | cons c combinators =>
      refine .cons ?_ (ih combinators)
      change k.compileSet set c = k.compileSet set' c
      rw [compileSet, compileSet, k.compileGroup_eq_of_rearranged r.group, r.sort]

theorem sortByKey_orders_eq_of_rearranged {os ps : Option (List OrderSpec)}
    (h : Option.Rel OrderSpec.Rearranged os ps) :
    sortByKey OrderSpec.sort (os.getD []) = sortByKey OrderSpec.sort (ps.getD []) := by
  cases h with
  | none => rfl
  | some r => exact sortByKey_eq_of_withSort_eq r.stable

/-- A segment and its rearrangements compile to the same segment, or are refused with the same error. -/
theorem compileSegment_eq_of_rearranged {s t : Segment} (r : s.Rearranged t) :
    k.compileSegment s = k.compileSegment t := by
  obtain ⟨inner, inside, setsPerm⟩ := r.sets
  have setSorts : HasUniqueSorts ConditionSet.sort s.sets ↔ HasUniqueSorts ConditionSet.sort t.sets :=
    (hasUniqueSorts_iff_of_forall₂ (inside.imp fun _ _ => ConditionSet.Rearranged.sort)).trans
      (hasUniqueSorts_iff_of_perm setsPerm)
  rw [compileSegment, compileSegment, sortByKey_orders_eq_of_rearranged r.orders, r.page]
  simp only [setSorts]
  by_cases unique : HasUniqueSorts ConditionSet.sort t.sets
  case neg => rw [if_pos unique, if_pos unique]
  have innerUnique : HasUniqueSorts ConditionSet.sort inner := (hasUniqueSorts_iff_of_perm setsPerm).2 unique
  have ordered := sortByKey_forall₂ (R := ConditionSet.Rearranged) (fun _ _ r => r.sort) inside
  rw [sortByKey_eq_of_perm setsPerm innerUnique] at ordered
  simp only [combinators_eq_of_rearranged ordered, k.mapM_compileSet_eq_of_rearranged ordered]

def tagFilters : Compiler := ⟨⟨"rows", [("t", .scalar .text)], some "t"⟩, .standard⟩

def anyTag : ConditionGroup :=
  ⟨1, .or, [⟨1, "t", .text, .isNull, []⟩, ⟨2, "t", .text, .isNotNull, []⟩], [⟨3, .and, [], []⟩, ⟨4, .or, [], []⟩]⟩

def anyTagShuffled : ConditionGroup :=
  ⟨1, .or, [⟨2, "t", .text, .isNotNull, []⟩, ⟨1, "t", .text, .isNull, []⟩], [⟨4, .or, [], []⟩, ⟨3, .and, [], []⟩]⟩

def tagged : Segment where
  sets := [⟨1, none, anyTag⟩, ⟨2, some .except, .empty⟩]
  orders := some [⟨1, "t", .ascending⟩, ⟨2, "t", .descending⟩, ⟨2, "t", .ascending⟩]
  page := none

def taggedShuffled : Segment where
  sets := [⟨2, some .except, .empty⟩, ⟨1, none, anyTagShuffled⟩]
  orders := some [⟨2, "t", .descending⟩, ⟨1, "t", .ascending⟩, ⟨2, "t", .ascending⟩]
  page := none

theorem rearranged_anyTag : anyTag.Rearranged anyTagShuffled :=
  .intro (.swap _ _ _) (.cons (.intro .nil .nil .nil) (.cons (.intro .nil .nil .nil) .nil)) (.swap _ _ _)

theorem compileSegment_taggedShuffled :
    tagged.Rearranged taggedShuffled ∧ tagFilters.compileSegment taggedShuffled = .ok
      ⟨[⟨1, none, .or [.isNull ["t"], .isNotNull ["t"]]⟩, ⟨2, some .except, .always⟩],
        [⟨["t"], .ascending⟩, ⟨["t"], .descending⟩, ⟨["t"], .ascending⟩], none, some ["t"]⟩ := by
  have sets : List.Forall₂ ConditionSet.Rearranged tagged.sets
      [⟨1, none, anyTagShuffled⟩, ⟨2, some .except, .empty⟩] :=
    .cons ⟨rfl, rfl, rearranged_anyTag⟩ (.cons ⟨rfl, rfl, .intro .nil .nil .nil⟩ .nil)
  have stable (sort : Int64) :
      [(⟨1, "t", .ascending⟩ : OrderSpec), ⟨2, "t", .descending⟩, ⟨2, "t", .ascending⟩].filter (fun o => o.sort = sort) =
        [(⟨2, "t", .descending⟩ : OrderSpec), ⟨1, "t", .ascending⟩, ⟨2, "t", .ascending⟩].filter
          fun o => o.sort = sort := by
    by_cases one : sort = 1
    · subst one
      decide
    · simp [List.filter_cons, Ne.symm one]
  have r : tagged.Rearranged taggedShuffled := ⟨⟨_, sets, .swap _ _ _⟩, .some ⟨.swap _ _ _, stable⟩, rfl⟩
  refine ⟨r, ?_⟩
  rw [← tagFilters.compileSegment_eq_of_rearranged r]
  cbv

end Compiler

end RecordFilter
