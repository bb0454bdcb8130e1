import RecordFilter.Condition.Predicate

set_option autoImplicit false

namespace RecordFilter

namespace Value

def elements : Nat → Value → List Value
  | 0, v => [v]
  | levels + 1, list items => items.flatMap (elements levels)
  | _ + 1, _ => []

def leaves : List PathSegment → Value → List Value
  | [], v => [v]
  | s :: rest, v => ((v.get s.name).elements s.depth).flatMap (leaves rest)

theorem follow_nil (v : Value) : v.follow [] = v := rfl

theorem follow_append (v : Value) (path : List String) (name : String) :
    v.follow (path ++ [name]) = (v.follow path).get name := by
  simp [follow]

end Value

/-- The last field as it is, were it a collection or not. -/
def wholeLast : List PathSegment → List PathSegment
  | [] => []
  | [s] => [⟨s.name, 0⟩]
  | s :: t :: rest => s :: wholeLast (t :: rest)

/-- The values that a condition on the path is about. -/
def ResolvedPath.leaves (p : ResolvedPath) (nullTest : Bool) (v : Value) : List Value :=
  v.leaves (if nullTest then wholeLast p.segments else p.segments)

namespace Value

def inLists : Nat → Value → Value
  | 0, v => v
  | levels + 1, v => list [inLists levels v]

def along : List PathSegment → Value → Value
  | [], v => v
  | s :: rest, v => record [(s.name, (along rest v).inLists s.depth)]

theorem elements_inLists (levels : Nat) (v : Value) : (v.inLists levels).elements levels = [v] := by
  induction levels with
  | zero => rfl
  | succ levels ih => rw [inLists, elements, List.flatMap_singleton, ih]

theorem leaves_along (segments : List PathSegment) (v : Value) : (v.along segments).leaves segments = [v] := by
  induction segments with
  | nil => rfl
  | cons s rest ih =>
    have first : (along (s :: rest) v).get s.name = (along rest v).inLists s.depth := by
      simp [along, get, Record.field]
    rw [leaves, first, elements_inLists, List.flatMap_singleton, ih]

end Value

theorem Value.leaves_of_plain {segments : List PathSegment} (plain : ∀ s ∈ segments, s.depth = 0) (v : Value) :
    v.leaves segments = [v.follow (segments.map (·.name))] := by
  induction segments generalizing v with
  | nil => rfl
  | cons s rest ih =>
    rw [List.forall_mem_cons] at plain
    rw [leaves, plain.1, elements, List.flatMap_singleton, ih plain.2]
    rfl

/-- A path through no collection leads to the value of one field. -/
theorem ResolvedPath.leaves_of_not_isExistential {p : ResolvedPath} (plain : p.isExistential = false) (v : Value) :
    p.leaves false v = [v.follow p.names] := by
  apply Value.leaves_of_plain
  intro s hs
  have flat := List.any_eq_false.1 plain s hs
  simpa using flat

theorem Hop.holds_nest (p : Predicate) (levels : Nat) (v : Value) :
    (nest p levels).holds v = (v.elements levels).any fun w => p.holds w := by
  induction levels generalizing v with
  | zero => simp [nest, Value.elements]
  | succ levels ih =>
    cases v with
    | list items => simp [nest, Predicate.holds, Value.follow_nil, Value.elements, ih]
    | _ => simp [nest, Predicate.holds, Value.follow_nil, Value.elements]

theorem Hop.holds_wrap (hop : Hop) (deep : 0 < hop.depth) (p : Predicate) (v : Value) :
    (hop.wrap p).holds v = ((v.follow hop.path).elements hop.depth).any fun w => p.holds w := by
  obtain ⟨levels, hlevels⟩ : ∃ levels, hop.depth = levels + 1 := ⟨hop.depth - 1, by omega⟩
  rw [wrap, Predicate.holds, hlevels, Nat.add_sub_cancel]
  cases v.follow hop.path with
  | list items => simp [Value.elements, holds_nest]
  | _ => simp [Value.elements]

namespace ResolvedPath

theorem splitFrom_of_plain {s : PathSegment} (plain : s.depth = 0) (pending : List String) (rest : List PathSegment) :
    splitFrom pending (s :: rest) = splitFrom (pending ++ [s.name]) rest := by
  rw [splitFrom, if_pos plain]

theorem splitFrom_of_deep {s : PathSegment} (deep : s.depth ≠ 0) (pending : List String) (rest : List PathSegment) :
    splitFrom pending (s :: rest) =
      (⟨pending ++ [s.name], s.depth⟩ :: (splitFrom [] rest).1, (splitFrom [] rest).2) := by
  rw [splitFrom, if_neg deep]

theorem holds_splitFrom (test : Value → Bool) (leaf : Predicate) (segments : List PathSegment)
    (pending : List String) (holds_leaf : ∀ v, leaf.holds v = test (v.follow (splitFrom pending segments).2))
    (v : Value) :
    ((splitFrom pending segments).1.foldr Hop.wrap leaf).holds v = ((v.follow pending).leaves segments).any test := by
  induction segments generalizing pending v with
  | nil => simpa [splitFrom, Value.leaves] using holds_leaf v
  | cons s rest ih =>
    by_cases plain : s.depth = 0
    · rw [splitFrom_of_plain plain] at holds_leaf ⊢
      rw [ih _ holds_leaf, Value.follow_append, Value.leaves, plain]
      simp [Value.elements]
    · have deep : 0 < s.depth := Nat.pos_of_ne_zero plain
      rw [splitFrom_of_deep plain] at holds_leaf ⊢
      rw [List.foldr_cons, Hop.holds_wrap _ deep, Value.leaves, List.any_flatMap, Value.follow_append]
      simp only [ih _ holds_leaf, Value.follow_nil]

theorem splitFrom_ne_nil (segments : List PathSegment) (pending : List String)
    (more : segments ≠ [] ∨ pending ≠ []) :
    (splitFrom pending segments).1 ≠ [] ∨ (splitFrom pending segments).2 ≠ [] := by
  induction segments generalizing pending with
  | nil => simpa [splitFrom] using more
  | cons s rest ih =>
    by_cases plain : s.depth = 0
    · rw [splitFrom_of_plain plain]
      exact ih _ (Or.inr (by simp))
    · rw [splitFrom_of_deep plain]
      exact Or.inl (by simp)

/-- The hops and the leaf path with the last hop, if the elements are the leaf, as the leaf path. -/
def openLast (split : List Hop × List String) : List Hop × List String :=
  match split.2.isEmpty, split.1.getLast? with
  | true, some last => (split.1.dropLast, last.path)
  | _, _ => split

theorem openLast_cons (hop : Hop) {hops : List Hop} {leaf : List String} (more : hops ≠ [] ∨ leaf ≠ []) :
    openLast (hop :: hops, leaf) = (hop :: (openLast (hops, leaf)).1, (openLast (hops, leaf)).2) := by
  cases leaf with
  | cons name names => rfl
  | nil =>
    cases hops with
    | nil => simp at more
    | cons next hops =>
      obtain ⟨last, hlast⟩ : ∃ last, (next :: hops).getLast? = some last := ⟨_, List.getLast?_eq_some_getLast (by simp)⟩
      simp [openLast, List.getLast?_cons_cons, hlast]

theorem openLast_splitFrom (segments : List PathSegment) (pending : List String) :
    openLast (splitFrom pending segments) = splitFrom pending (wholeLast segments) := by
  induction segments generalizing pending with
  | nil => cases pending <;> rfl
  | cons s rest ih =>
    cases rest with
    | nil => by_cases plain : s.depth = 0 <;> simp [splitFrom, wholeLast, openLast, plain]
    | cons t rest =>
      rw [wholeLast]
      by_cases plain : s.depth = 0
      · rw [splitFrom_of_plain plain, ih, splitFrom_of_plain plain]
      · have inner := splitFrom_ne_nil (t :: rest) [] (Or.inl (by simp))
        rw [splitFrom_of_deep plain, splitFrom_of_deep plain, openLast_cons _ inner, ih]

theorem target_eq_splitFrom (p : ResolvedPath) (nullTest : Bool) :
    p.target nullTest = splitFrom [] (if nullTest then wholeLast p.segments else p.segments) := by
  cases nullTest with
  | false => rfl
  | true => exact openLast_splitFrom p.segments []

theorem holds_target (p : ResolvedPath) (nullTest : Bool) (test : Value → Bool) (leaf : Predicate)
    (holds_leaf : ∀ v, leaf.holds v = test (v.follow (p.target nullTest).2)) (v : Value) :
    ((p.target nullTest).1.foldr Hop.wrap leaf).holds v = (p.leaves nullTest v).any test := by
  rw [target_eq_splitFrom] at holds_leaf ⊢
  rw [holds_splitFrom test leaf _ _ holds_leaf, Value.follow_nil, leaves]

end ResolvedPath

end RecordFilter
