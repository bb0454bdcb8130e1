import RecordFilter.Condition.Literals
import RecordFilter.Proofs.Outcome

set_option autoImplicit false

namespace RecordFilter

/-- Whether an operator of the arity takes that many values, a membership list at most `most` of them. -/
def Arity.Allows (most : Nat) : Arity → Nat → Prop
  | none, n => n = 0
  | one, n => n = 1
  | two, n => n = 2
  | many, n => 0 < n ∧ n ≤ most

namespace Condition

theorem countFault?_eq_none_iff (c : Condition) (most : Nat) :
    c.countFault? most = none ↔ c.operator.arity.Allows most c.values.length := by
  unfold countFault?
  cases c.operator.arity with
  | none => cases c.values <;> simp [Arity.Allows]
  | one => simp [Arity.Allows]
  | two => simp [Arity.Allows]
  | many => cases c.values <;> simp [Arity.Allows]

theorem literals_eq_ok_iff {c : Condition} {most : Nat} {ls : List Literal} :
    c.literals most = .ok ls ↔
      c.operator.supports c.dataType = true ∧ c.operator.arity.Allows most c.values.length ∧
        (∀ s ∈ c.values, isBlank s = false) ∧
        List.Forall₂ (fun s l => Literal.ofText c.dataType s = .ok l) c.values ls := by
  rw [← countFault?_eq_none_iff, literals, Outcome.ite_error_eq_ok_iff, Bool.not_eq_true', Bool.not_eq_false]
  refine and_congr_right fun _ => ?_
  cases c.countFault? most with
  | some fault => simp
  | none => simp [Outcome.ite_error_eq_ok_iff, Outcome.mapM_eq_ok_iff]

theorem allows_length_of_literals {c : Condition} {most : Nat} {ls : List Literal} (h : c.literals most = .ok ls) :
    c.operator.arity.Allows most ls.length := by
  obtain ⟨-, allowed, -, read⟩ := literals_eq_ok_iff.1 h
  rwa [← read.length_eq]

/-- With another operator that takes as many values of the data type, a condition has the same literals. -/
theorem literals_with_operator {c : Condition} {o : Operator} {most : Nat} {ls : List Literal}
    (arity : o.arity = c.operator.arity) (supported : o.supports c.dataType = true) (h : c.literals most = .ok ls) :
    { c with operator := o }.literals most = .ok ls := by
  obtain ⟨-, counted, filled, read⟩ := literals_eq_ok_iff.1 h
  refine literals_eq_ok_iff.2 ⟨supported, ?_, filled, read⟩
  change o.arity.Allows most c.values.length
  rwa [arity]

end Condition

end RecordFilter
