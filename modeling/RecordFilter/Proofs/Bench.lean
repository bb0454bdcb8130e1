import RecordFilter.Proofs.Spec.RoundTrip
import RecordFilter.Segment.Event

set_option autoImplicit false

namespace RecordFilter

namespace Json

theorem plain?_ofNat {n : Nat} (fits : n < 2 ^ 64) (room : Nat) : plain? room (.ofNat n) = some (.ofNat n) := by
  have word : (Number.ofInt n).toWord? = some (n : Int) := by
    rw [Number.toWord?, Number.toInt?_ofInt, Option.filter_some, if_pos]
    simp
    omega
  rw [Json.ofNat, Json.ofInt, plain?, Number.plain?, word]
  rfl

theorem lastOfEach_of_nodup {members : List (Text × Json)} (distinct : (members.map Prod.fst).Nodup) :
    lastOfEach members = members := by
  induction members with
  | nil => rfl
  | cons m members ih =>
    rw [List.map_cons, List.nodup_cons] at distinct
    have last : (members.any fun n => n.1 == m.1) = false := by
      rw [List.any_eq_false]
      intro n listed same
      exact distinct.1 (List.mem_map.2 ⟨n, listed, beq_iff_eq.1 same⟩)
    rw [lastOfEach, last, ih distinct.2]
    rfl

theorem plainMembers?_map {room : Nat} {members : List (String × Json)}
    (plain : ∀ m ∈ members, plain? room m.2 = some m.2) :
    plainMembers? room (members.map fun m => (some m.1, m.2)) = some (members.map fun m => (some m.1, m.2)) := by
  induction members with
  | nil => rfl
  | cons m members ih =>
    rw [List.forall_mem_cons] at plain
    simp only [List.map_cons, plainMembers?, plain.1, ih plain.2]

theorem plain?_ofMembers {room : Nat} {members : List (String × Json)} (distinct : (members.map Prod.fst).Nodup)
    (plain : ∀ m ∈ members, plain? room m.2 = some m.2) :
    plain? (room + 1) (.ofMembers members) = some (.ofMembers members) := by
  have named : ((members.map fun m => (some m.1, m.2)).map Prod.fst).Nodup := by
    have names := distinct.map (Option.some_injective String)
    rwa [List.map_map] at names ⊢
  change (plainMembers? room (members.map fun m => (some m.1, m.2))).map (fun ms => object (lastOfEach ms)) = _
  rw [plainMembers?_map plain, Option.map_some, lastOfEach_of_nodup named]
  rfl

end Json

namespace Bench

open Json (ofMembers ofString)

def runRecord (sets elapsed total data : Nat) : Json :=
  ofMembers [("bench", ofString "segment"), ("duration_ms", .ofNat elapsed), ("op", ofString "execute"),
    ("result_count", .ofNat data), ("sets", .ofNat sets), ("total_count", .ofNat total)]

theorem line_run (sets elapsed total data : Nat) :
    (RunEvent.finished sets total data).line elapsed = (runRecord sets elapsed total data).text := by
  rfl

theorem record?_run {sets elapsed total data : Nat} (fits : ∀ n ∈ [sets, elapsed, total, data], n < 2 ^ 64) :
    record? "segment" ((RunEvent.finished sets total data).line elapsed) =
      some (runRecord sets elapsed total data) := by
  simp only [List.forall_mem_cons] at fits
  obtain ⟨hsets, helapsed, htotal, hdata, -⟩ := fits
  have written : (runRecord sets elapsed total data).IsWritten := by
    refine Spec.isWritten_ofMembers ?_
    simp only [List.forall_mem_cons]
    exact ⟨.string _, Spec.isWritten_ofInt _, .string _, Spec.isWritten_ofInt _, Spec.isWritten_ofInt _,
      Spec.isWritten_ofInt _, nofun⟩
  have plain : Json.plain? maxNesting (runRecord sets elapsed total data) =
      some (runRecord sets elapsed total data) := by
    have names : ["bench", "duration_ms", "op", "result_count", "sets", "total_count"].Nodup := by decide
    refine Json.plain?_ofMembers names ?_
    simp only [List.forall_mem_cons]
    exact ⟨rfl, Json.plain?_ofNat helapsed _, rfl, Json.plain?_ofNat hdata _, Json.plain?_ofNat hsets _,
      Json.plain?_ofNat htotal _, nofun⟩
  rw [record?, line_run, written.ofText?_text, Option.bind_some, plain]
  rfl

theorem ofText?_of_head? {line : String} (h : line.toList.head? = some 'a') : Json.ofText? line = none := by
  obtain ⟨cs, chars⟩ := List.head?_eq_some_iff.1 h
  rw [Json.ofText?, chars]
  rfl

/-- No document begins like the report of a set. -/
theorem record?_folded (component : String) (elapsed : Nat) (sort : Int64) (records : Nat) :
    record? component ((RunEvent.folded sort records).line elapsed) = none := by
  have head : ((RunEvent.folded sort records).line elapsed).toList.head? = some 'a' := by
    have first : "after condition set ".toList.head? = some 'a' := rfl
    unfold RunEvent.line
    simp only [String.toList_append, List.append_assoc]
    change ("after condition set ".toList ++ _).head? = some 'a'
    rw [List.head?_append, first, Option.some_or]
  rw [record?, ofText?_of_head? head]
  rfl

end Bench

end RecordFilter
