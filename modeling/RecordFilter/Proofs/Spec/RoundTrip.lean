import Mathlib
import RecordFilter.Proofs.Group.Basic
import RecordFilter.Proofs.Json.Reading
import RecordFilter.Spec.Printer
import RecordFilter.Spec.Reader

set_option autoImplicit false

/-!
# Written segments read back

What a segment is written as is read as the same segment, if its groups nest no deeper than the reader goes. Groups
that were read do, since all that is written besides what was read are lists that are empty.
-/

namespace RecordFilter

open Json (ofString ofInt ofMembers)

namespace ConditionGroup

mutual

def depth : ConditionGroup → Nat
  | ⟨_, _, _, subgroups⟩ => depthBelow subgroups + 1

def depthBelow : List ConditionGroup → Nat
  | [] => 0
  | g :: gs => max (depth g) (depthBelow gs)

end

theorem depthBelow_le_iff {gs : List ConditionGroup} {n : Nat} : depthBelow gs ≤ n ↔ ∀ g ∈ gs, g.depth ≤ n := by
  induction gs with
  | nil => simp [depthBelow]
  | cons g gs ih => rw [depthBelow, Nat.max_le, ih, List.forall_mem_cons]

theorem depth_le_succ_iff {g : ConditionGroup} {n : Nat} : g.depth ≤ n + 1 ↔ ∀ sub ∈ g.subgroups, sub.depth ≤ n := by
  obtain ⟨sort, connector, conditions, subgroups⟩ := g
  rw [depth, Nat.add_le_add_iff_right, depthBelow_le_iff]

/-- Whether a tree, as it is written, keeps within `n` levels of groups and of lists of their members. The lists of
the last level hold nothing. -/
def Fits : Nat → ConditionGroup → Prop
  | 0, _ => False
  | n + 1, g => (g.conditions ≠ [] → n ≠ 0) ∧ ∀ sub ∈ g.subgroups, Fits n sub

theorem fits_of_depth_le {g : ConditionGroup} {n : Nat} (shallow : g.depth ≤ n) : Fits (n + 1) g := by
  induction n generalizing g with
  | zero =>
    cases g
    rw [depth] at shallow
    omega
  | succ n ih => exact ⟨fun _ => n.succ_ne_zero, fun sub hsub => ih (depth_le_succ_iff.1 shallow sub hsub)⟩

theorem toJsonList_eq_map (gs : List ConditionGroup) : toJsonList gs = gs.map toJson := by
  induction gs with
  | nil => rfl
  | cons g gs ih => rw [toJsonList, ih, List.map_cons]

end ConditionGroup

namespace Spec

variable {α : Type}

theorem mapM_map_eq_some {write : α → Json} {read : Json → Option α} {as : List α}
    (reads : ∀ a ∈ as, read (write a) = some a) : (as.map write).mapM read = some as := by
  induction as with
  | nil => rfl
  | cons a as ih =>
    rw [List.forall_mem_cons] at reads
    simp [List.mapM_cons, reads.1, ih reads.2]

theorem exists_of_mapM_eq_some {read : Json → Option α} {items : List Json} {as : List α}
    (h : items.mapM read = some as) {a : α} (ha : a ∈ as) : ∃ j, read j = some a := by
  induction items generalizing as with
  | nil =>
    cases h
    cases ha
  | cons j items ih =>
    simp only [List.mapM_cons, Option.bind_eq_bind, Option.bind_eq_some_iff, Option.pure_def, Option.some.injEq] at h
    obtain ⟨b, hb, bs, hbs, rfl⟩ := h
    rcases List.mem_cons.1 ha with rfl | ha
    · exact ⟨j, hb⟩
    · exact ih hbs ha

theorem list?_map {write : α → Json} {read : Nat → Json → Option α} {room : Nat} {as : List α}
    (reads : ∀ a ∈ as, read room (write a) = some a) : list? read (room + 1) (.array (as.map write)) = some as :=
  mapM_map_eq_some reads

theorem exists_of_orDefault_list? {read : Nat → Json → Option α} {room : Nat} {field : Option Json} {as : List α}
    (h : orDefault [] (list? read (room + 1)) field = some as) {a : α} (ha : a ∈ as) : ∃ i, read room i = some a := by
  match field, h with
  | none, rfl => cases ha
  | some (.array items), h => exact exists_of_mapM_eq_some h ha

theorem lookup_dataType (t : DataType) : dataTypes.lookup t.name = some t := by cases t <;> rfl

theorem lookup_operator (op : Operator) : operators.lookup op.name = some op := by cases op <;> rfl

theorem lookup_connector (c : Connector) : connectors.lookup c.name = some c := by cases c <;> rfl

theorem lookup_combinator (c : Combinator) : combinators.lookup c.name = some c := by cases c <;> rfl

theorem lookup_direction (d : Direction) : directions.lookup d.name = some d := by cases d <;> rfl

theorem word?_ofString (known : List (String × α)) (room : Nat) (s : String) :
    word? known room (ofString s) = known.lookup s := rfl

theorem int64?_ofInt (i : Int64) : int64? (ofInt i.toInt) = some i := by
  have inRange : -2 ^ 63 ≤ i.toInt ∧ i.toInt < 2 ^ 63 := ⟨i.le_toInt, i.toInt_lt⟩
  change (Json.Number.ofInt i.toInt).toInt64? = some i
  rw [Json.Number.toInt64?, Json.Number.toInt?_ofInt]
  exact (if_pos inRange).trans (congrArg some (Int64.ofInt_toInt i))

theorem condition?_toJson (c : Condition) (room : Nat) : condition? (room + 2) c.toJson = some c := by
  have fields : fields? [["sort"], ["field"], ["dataType"], ["operator"], ["values"]] c.toJson =
      some [some (ofInt c.sort.toInt), some (ofString c.field), some (ofString c.dataType.name),
        some (ofString c.operator.name), some (.array (c.values.map ofString))] := rfl
  have values : list? (fun _ => text?) (room + 1) (.array (c.values.map ofString)) = some c.values :=
    list?_map fun v _ => rfl
  have field : text? (ofString c.field) = some c.field := rfl
  simp only [condition?, fields, orDefault, Option.bind_some, int64?_ofInt, word?_ofString, lookup_dataType,
    lookup_operator, values, field, Option.bind_eq_bind]

theorem group?_toJson {g : ConditionGroup} {n : Nat} (fits : g.Fits n) : group? (2 * n) g.toJson = some g := by
  induction n generalizing g with
  | zero => cases fits
  | succ n ih =>
    obtain ⟨sort, connector, conditions, subgroups⟩ := g
    obtain ⟨last, below⟩ := fits
    have fields : fields? [["sort"], ["connector"], ["conditions"], ["subConditionGroups", "subgroups"]]
        (ConditionGroup.toJson ⟨sort, connector, conditions, subgroups⟩) =
        some [some (ofInt sort.toInt), some (ofString connector.name),
          some (.array (conditions.map Condition.toJson)), some (.array (ConditionGroup.toJsonList subgroups))] := rfl
    have own : list? condition? (2 * n + 1) (.array (conditions.map Condition.toJson)) = some conditions := by
      refine list?_map fun c hc => ?_
      obtain ⟨m, rfl⟩ := Nat.exists_eq_add_one_of_ne_zero (last (List.ne_nil_of_mem hc))
      exact condition?_toJson c (2 * m)
    have nested : (ConditionGroup.toJsonList subgroups).mapM (group? (2 * n)) = some subgroups := by
      rw [ConditionGroup.toJsonList_eq_map]
      exact mapM_map_eq_some fun sub hsub => ih (below sub hsub)
    rw [Nat.mul_succ]
    simp only [group?, fields, orDefault, Option.bind_some, int64?_ofInt, word?_ofString, lookup_connector, own, nested,
      Option.bind_eq_bind]

theorem conditionSet?_toJson {set : ConditionSet} {n : Nat} (fits : set.group.Fits n) :
    conditionSet? (2 * n + 1) set.toJson = some set := by
  have group := group?_toJson fits
  obtain ⟨sort, combinator, g⟩ := set
  cases combinator with
  | none => simp [conditionSet?, ConditionSet.toJson, fields?, ofMembers, orDefault, nullable?, int64?_ofInt, group]
  | some c =>
    have combinator : nullable? (word? combinators (2 * n)) (ofString c.name) = some (some c) :=
      congrArg (Option.map some) (lookup_combinator c)
    simp [conditionSet?, ConditionSet.toJson, fields?, ofMembers, orDefault, int64?_ofInt, combinator, group]

theorem orderSpec?_toJson (o : OrderSpec) (room : Nat) : orderSpec? (room + 1) o.toJson = some o := by
  have fields : fields? [["sort"], ["field"], ["direction"]] o.toJson =
      some [some (ofInt o.sort.toInt), some (ofString o.field), some (ofString o.direction.name)] := rfl
  have field : text? (ofString o.field) = some o.field := rfl
  simp only [orderSpec?, fields, orDefault, Option.bind_some, int64?_ofInt, field, word?_ofString, lookup_direction,
    Option.bind_eq_bind]

theorem pageSpec?_toJson (p : PageSpec) (room : Nat) : pageSpec? (room + 1) p.toJson = some p := by
  have fields : fields? [["pageNumber"], ["pageSize"]] p.toJson =
      some [some (ofInt p.number.toInt), some (ofInt p.size.toInt)] := rfl
  simp only [pageSpec?, fields, Option.bind_some, int64?_ofInt, Option.bind_eq_bind]

theorem segment?_toJson {s : Segment} {n : Nat} (fits : ∀ set ∈ s.sets, set.group.Fits n) :
    segment? (2 * n + 3) s.toJson = some s := by
  have hsets : list? conditionSet? (2 * n + 2) (.array (s.sets.map ConditionSet.toJson)) = some s.sets :=
    list?_map fun set hset => conditionSet?_toJson (fits set hset)
  have horders (os : List OrderSpec) :
      nullable? (list? orderSpec? (2 * n + 2)) (.array (os.map OrderSpec.toJson)) = some (some os) :=
    congrArg (Option.map some) (list?_map fun o _ => orderSpec?_toJson o _)
  have hpage (p : PageSpec) : nullable? (pageSpec? (2 * n + 2)) p.toJson = some (some p) :=
    congrArg (Option.map some) (pageSpec?_toJson p _)
  obtain ⟨sets, orders, page⟩ := s
  cases orders <;> cases page <;>
    simp [segment?, Segment.toJson, fields?, ofMembers, orDefault, hsets, horders, hpage]

theorem fits_of_group? {n : Nat} {j : Json} {g : ConditionGroup} (h : group? (2 * n) j = some g) : g.Fits n := by
  induction n generalizing j g with
  | zero => cases h
  | succ n ih =>
    rw [Nat.mul_succ, group?] at h
    split at h
    case h_2 => cases h
    simp only [Option.bind_eq_bind, Option.bind_eq_some_iff] at h
    obtain ⟨sort, -, connector, -, conditions, hconditions, h⟩ := h
    have last : conditions ≠ [] → n ≠ 0 := by
      rintro some_condition rfl
      obtain ⟨c, cs, rfl⟩ := List.exists_cons_of_ne_nil some_condition
      obtain ⟨i, hi⟩ := exists_of_orDefault_list? hconditions List.mem_cons_self
      cases hi
    split at h
    case h_1 =>
      cases h
      exact ⟨last, fun sub hsub => absurd hsub List.not_mem_nil⟩
    case h_2 _ room same _ =>
      obtain rfl : 2 * n = room := Nat.succ.inj same
      obtain ⟨subgroups, hsubgroups, h⟩ := Option.bind_eq_some_iff.1 h
      cases h
      refine ⟨last, fun sub hsub => ?_⟩
      obtain ⟨i, hi⟩ := exists_of_mapM_eq_some hsubgroups hsub
      exact ih hi
    case h_3 => cases h

theorem fits_of_conditionSet? {n : Nat} {j : Json} {set : ConditionSet} (h : conditionSet? (2 * n + 1) j = some set) :
    set.group.Fits n := by
  rw [conditionSet?] at h
  split at h
  case h_2 => cases h
  simp only [Option.bind_eq_bind, Option.bind_eq_some_iff] at h
  obtain ⟨sort, -, combinator, -, group, ⟨j, -, hgroup⟩, h⟩ := h
  cases h
  exact fits_of_group? hgroup

theorem fits_of_segment? {n : Nat} {j : Json} {s : Segment} (h : segment? (2 * n + 3) j = some s) :
    ∀ set ∈ s.sets, set.group.Fits n := by
  rw [segment?] at h
  split at h
  case h_2 => cases h
  simp only [Option.bind_eq_bind, Option.bind_eq_some_iff] at h
  obtain ⟨sets, hsets, orders, -, page, -, h⟩ := h
  cases h
  intro set hset
  obtain ⟨i, hi⟩ := exists_of_orDefault_list? hsets hset
  exact fits_of_conditionSet? hi

theorem isWritten_ofMembers {members : List (String × Json)} (written : ∀ m ∈ members, m.2.IsWritten) :
    (ofMembers members).IsWritten := by
  refine .object (fun m hm => ?_) (fun m hm => ?_)
  · obtain ⟨⟨k, j⟩, -, rfl⟩ := List.mem_map.1 hm
    rfl
  · obtain ⟨⟨k, j⟩, hj, rfl⟩ := List.mem_map.1 hm
    exact written _ hj

theorem isWritten_ofInt (i : Int) : (ofInt i).IsWritten := .number (Json.Number.isWritten_ofInt i)

theorem isWritten_map {write : α → Json} {as : List α} (written : ∀ a ∈ as, (write a).IsWritten) :
    (Json.array (as.map write)).IsWritten := by
  refine .array fun j hj => ?_
  obtain ⟨a, ha, rfl⟩ := List.mem_map.1 hj
  exact written a ha

theorem isWritten_condition (c : Condition) : c.toJson.IsWritten := by
  refine isWritten_ofMembers ?_
  simp only [List.forall_mem_cons]
  exact ⟨isWritten_ofInt _, .string _, .string _, .string _, isWritten_map fun v _ => .string v, nofun⟩

theorem isWritten_group (g : ConditionGroup) : g.toJson.IsWritten := by
  induction g using ConditionGroup.induction with
  | mk sort connector conditions subgroups ih =>
    refine isWritten_ofMembers ?_
    simp only [List.forall_mem_cons, ConditionGroup.toJsonList_eq_map]
    exact ⟨isWritten_ofInt _, .string _, isWritten_map fun c _ => isWritten_condition c, isWritten_map ih, nofun⟩

theorem isWritten_conditionSet (set : ConditionSet) : set.toJson.IsWritten := by
  refine isWritten_ofMembers ?_
  simp only [List.forall_mem_cons]
  refine ⟨isWritten_ofInt _, ?_, isWritten_group _, nofun⟩
  cases set.combinator with
  | none => exact .null
  | some c => exact .string _

theorem isWritten_orderSpec (o : OrderSpec) : o.toJson.IsWritten := by
  refine isWritten_ofMembers ?_
  simp only [List.forall_mem_cons]
  exact ⟨isWritten_ofInt _, .string _, .string _, nofun⟩

theorem isWritten_pageSpec (p : PageSpec) : p.toJson.IsWritten := by
  refine isWritten_ofMembers ?_
  simp only [List.forall_mem_cons]
  exact ⟨isWritten_ofInt _, isWritten_ofInt _, nofun⟩

theorem isWritten_segment (s : Segment) : s.toJson.IsWritten := by
  obtain ⟨sets, orders, page⟩ := s
  have hsets : (Json.array (sets.map ConditionSet.toJson)).IsWritten := isWritten_map fun set _ => isWritten_conditionSet set
  have horders (os : List OrderSpec) : (Json.array (os.map OrderSpec.toJson)).IsWritten :=
    isWritten_map fun o _ => isWritten_orderSpec o
  refine isWritten_ofMembers ?_
  cases orders <;> cases page <;> simp [hsets, horders, isWritten_pageSpec]

theorem ofText_text_of_read {read : Nat → Json → Option α} {j : Json} {a : α} (written : j.IsWritten)
    (value : j ≠ .null) (h : read maxNesting j = some a) : ofText read j.text = .ok a := by
  rw [ofText, written.ofText?_text]
  simp [h]

theorem exists_of_ofText_eq_ok {read : Nat → Json → Option α} {text : String} {a : α} (h : ofText read text = .ok a) :
    ∃ j, read maxNesting j = some a := by
  unfold ofText at h
  split at h
  case h_3 j _ _ =>
    split at h
    case h_1 b hb =>
      cases h
      exact ⟨j, hb⟩
    case h_2 => cases h
  all_goals cases h

end Spec

namespace Segment

theorem fits_of_ofText {text : String} {s : Segment} (h : ofText text = .ok s) : ∀ set ∈ s.sets, set.group.Fits 62 := by
  obtain ⟨j, hj⟩ := Spec.exists_of_ofText_eq_ok h
  exact Spec.fits_of_segment? (n := 62) hj

theorem ofText_text_eq_ok_iff {s : Segment} : ofText s.text = .ok s ↔ ∀ set ∈ s.sets, set.group.Fits 62 := by
  constructor
  · exact fits_of_ofText
  · intro fits
    exact Spec.ofText_text_of_read (Spec.isWritten_segment s) nofun (Spec.segment?_toJson fits)

/-- A segment whose groups nest at most 61 deep is read from its text as it is, and so is one that was read from any
text at all. -/
theorem ofText_text :
    (∀ s : Segment, (∀ set ∈ s.sets, set.group.depth ≤ 61) → ofText s.text = .ok s) ∧
      ∀ (text : String) (s : Segment), ofText text = .ok s → ofText s.text = .ok s := by
  constructor
  · intro s shallow
    exact ofText_text_eq_ok_iff.2 fun set hset => ConditionGroup.fits_of_depth_le (shallow set hset)
  · intro text s h
    exact ofText_text_eq_ok_iff.2 (fits_of_ofText h)

def escapedSegment : Segment :=
  ⟨[⟨-9223372036854775808, none, ⟨9223372036854775807, .or, [⟨1, "\"\\\n\x00", .text, .equal, ["", "é/\x7f"]⟩], [.empty]⟩⟩],
    some [], none⟩

def bareSegment : Segment := ⟨[⟨0, none, .empty⟩], none, none⟩

theorem ofText_text_escaped :
    ((∀ set ∈ escapedSegment.sets, set.group.depth ≤ 61) ∧ ofText escapedSegment.text = .ok escapedSegment) ∧
      ofText "[[[0,null,[]]]]" = .ok bareSegment ∧ ofText bareSegment.text = .ok bareSegment := by
  have shallow : ∀ set ∈ escapedSegment.sets, set.group.depth ≤ 61 := by decide
  have bare : ofText "[[[0,null,[]]]]" = .ok bareSegment := by cbv
  exact ⟨⟨shallow, ofText_text.1 _ shallow⟩, bare, ofText_text.2 _ _ bare⟩

end Segment

end RecordFilter
