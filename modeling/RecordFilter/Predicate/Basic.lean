import RecordFilter.LikePattern
import RecordFilter.Literal
import RecordFilter.Record.Basic

set_option autoImplicit false

namespace RecordFilter

inductive Comparison where
  | eq | ne | gt | gte | lt | lte
deriving DecidableEq

namespace Comparison

def symbol : Comparison → String
  | eq => "="
  | ne => "<>"
  | gt => ">"
  | gte => ">="
  | lt => "<"
  | lte => "<="

def holds : Comparison → Ordering → Bool
  | eq, o => o == .eq
  | ne, o => o != .eq
  | gt, o => o == .gt
  | gte, o => o != .lt
  | lt, o => o == .lt
  | lte, o => o != .gt

end Comparison

inductive Predicate where
  /-- Holds of everything. -/
  | always
  | and (parts : List Predicate)
  | or (parts : List Predicate)
  | not (part : Predicate)
  | isNull (field : FieldRef)
  | isNotNull (field : FieldRef)
  | compare (field : FieldRef) (op : Comparison) (value : Literal) (foldCase : Bool)
  /-- Holds of no field that is not a text, negated or not. -/
  | like (field : FieldRef) (pattern : LikePattern) (foldCase negated : Bool)
  /-- At least one element of the collection satisfies the part. -/
  | anyElement (collection : FieldRef) (part : Predicate)

namespace Predicate

/-- All of the parts; one part stands for itself, and none for everything. -/
def conjunction : List Predicate → Predicate
  | [] => always
  | [p] => p
  | ps => and ps

def disjunction : List Predicate → Predicate
  | [p] => p
  | ps => or ps

def isAlways : Predicate → Bool
  | always => true
  | _ => false

def likeHolds (v : Value) (pattern : LikePattern) (foldCase negated : Bool) : Bool :=
  match v with
  | .text s => pattern.isMatch (if foldCase then lowercase s else s) != negated
  | _ => false

mutual

def holds : Predicate → Value → Bool
  | always, _ => true
  | and ps, v => allHold ps v
  | or ps, v => anyHolds ps v
  | not p, v => !holds p v
  | isNull field, v => (v.follow field).isNull
  | isNotNull field, v => !(v.follow field).isNull
  | compare field op value foldCase, v =>
    match (v.follow field).compareLiteral? value foldCase with
    | some o => op.holds o
    | none => false
  | like field pattern foldCase negated, v => likeHolds (v.follow field) pattern foldCase negated
  | anyElement collection p, v =>
    match v.follow collection with
    | .list items => items.any fun item => holds p item
    | _ => false

def allHold : List Predicate → Value → Bool
  | [], _ => true
  | p :: ps, v => holds p v && allHold ps v

def anyHolds : List Predicate → Value → Bool
  | [], _ => false
  | p :: ps, v => holds p v || anyHolds ps v

end

theorem allHold_eq_all (ps : List Predicate) (v : Value) : allHold ps v = ps.all fun p => p.holds v := by
  induction ps with
  | nil => rfl
  | cons p ps ih => rw [allHold, ih, List.all_cons]

theorem anyHolds_eq_any (ps : List Predicate) (v : Value) : anyHolds ps v = ps.any fun p => p.holds v := by
  induction ps with
  | nil => rfl
  | cons p ps ih => rw [anyHolds, ih, List.any_cons]

theorem holds_conjunction (ps : List Predicate) (v : Value) :
    (conjunction ps).holds v = ps.all fun p => p.holds v := by
  match ps with
  | [] => simp [conjunction, holds]
  | [p] => simp [conjunction]
  | p :: q :: ps => exact allHold_eq_all (p :: q :: ps) v

theorem holds_disjunction (ps : List Predicate) (v : Value) :
    (disjunction ps).holds v = ps.any fun p => p.holds v := by
  match ps with
  | [] => exact anyHolds_eq_any [] v
  | [p] => simp [disjunction]
  | p :: q :: ps => exact anyHolds_eq_any (p :: q :: ps) v

def accepts {α : Type} [HasFields α] (p : Predicate) (a : α) : Bool := p.holds (scope a)

mutual

def same : Predicate → Predicate → Bool
  | always, always => true
  | and ps, and qs => sameAll ps qs
  | or ps, or qs => sameAll ps qs
  | not p, not q => same p q
  | isNull f, isNull g => f == g
  | isNotNull f, isNotNull g => f == g
  | compare f op l fold, compare g oq m fold' => f == g && op == oq && l.same m && fold == fold'
  | like f p fold neg, like g q fold' neg' => f == g && p == q && fold == fold' && neg == neg'
  | anyElement f p, anyElement g q => f == g && same p q
  | _, _ => false

def sameAll : List Predicate → List Predicate → Bool
  | [], [] => true
  | p :: ps, q :: qs => same p q && sameAll ps qs
  | _, _ => false

end

end Predicate

end RecordFilter
