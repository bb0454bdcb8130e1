import Mathlib
import RecordFilter.Proofs.Segment.Compiled
import RecordFilter.Proofs.Segment.Workers
import RecordFilter.Segment.Execute

set_option autoImplicit false

namespace RecordFilter

namespace Page

variable {α : Type}

/-- The page of some records by unbounded arithmetic. -/
def slice (all : List α) (number size : Nat) : Page α :=
  ⟨number, size, all.length ⌈/⌉ size, all.length, all.extract ((max number 1 - 1) * size) (max number 1 * size)⟩

theorem slice_data (all : List α) (number size : Nat) :
    (slice all number size).data = (all.drop ((max number 1 - 1) * size)).take size := by
  have width : max number 1 * size - (max number 1 - 1) * size = size := by
    rw [← Nat.sub_mul, Nat.sub_sub_self (Nat.le_max_right number 1), Nat.one_mul]
  rw [slice, List.extract_eq_take_drop, width]

theorem slice_data_of_count_lt {all : List α} {number size : Nat} (positive : 1 ≤ size)
    (behind : all.length ⌈/⌉ size < number) : (slice all number size).data = [] := by
  have reached : all.length ≤ (max number 1 - 1) * size := by
    rw [Nat.mul_comm, ← ceilDiv_le_iff_le_mul positive]
    omega
  rw [slice_data, List.drop_eq_nil_of_le reached, List.take_nil]

theorem flatten_slices (all : List α) (size pages : Nat) :
    ((List.range pages).map fun i => (slice all (i + 1) size).data).flatten = all.take (pages * size) := by
  induction pages with
  | zero =>
    rw [Nat.zero_mul]
    rfl
  | succ n ih =>
    have last : (slice all (n + 1) size).data = (all.drop (n * size)).take size := by
      rw [slice_data, Nat.max_eq_left (Nat.le_add_left 1 n), Nat.add_sub_cancel]
    rw [List.range_succ, List.map_append, List.flatten_append, ih, List.map_singleton, List.flatten_singleton, last,
      Nat.succ_mul, List.take_add]

def cut (w : PageWindow) (all : Page α) : Page α :=
  Page.of (some w) all.data.length ((all.data.drop w.skip).take w.take)

theorem drop_saturate {all : List α} (fits : all.length ≤ Word.max) (n : Nat) :
    all.drop (Word.saturate n) = all.drop n := by
  rw [Word.saturate]
  rcases Nat.le_total n Word.max with small | large
  · rw [Nat.min_eq_left small]
  · rw [Nat.min_eq_right large, List.drop_eq_nil_of_le fits, List.drop_eq_nil_of_le (fits.trans large)]

theorem ceilDiv_eq {size : Nat} (positive : 1 ≤ size) (total : Nat) : Word.ceilDiv total size = total ⌈/⌉ size := by
  have size_eq : Nat.max size 1 = size := Nat.max_eq_left positive
  rw [Word.ceilDiv, size_eq, Nat.ceilDiv_eq_add_pred_div]

theorem cut_eq_slice {all : Page α} (fits : all.data.length ≤ Word.max) {w : PageWindow} (positive : 1 ≤ w.size) :
    cut w all = slice all.data w.number w.size := by
  have start : max w.number 1 - 1 = w.number - 1 := by omega
  have shown : (all.data.drop w.skip).take w.take = (slice all.data w.number w.size).data := by
    rw [slice_data, PageWindow.skip, drop_saturate fits, start, PageWindow.take]
  rw [cut, shown, Page.of, ceilDiv_eq positive, slice]

end Page

def Segment.withPage (segment : Segment) (page : Option PageSpec) : Segment := { segment with page := page }

namespace Compiler

variable (k : Compiler)

/-- The size of the pages that are cut for a request, which is not above the largest allowed. -/
def pageSize (size : Int64) : Nat :=
  match k.config.maxPageSize with
  | some most => min size.toInt.toNat most
  | none => size.toInt.toNat

theorem pageSize_le (size : Int64) : k.pageSize size ≤ size.toInt.toNat := by
  rw [pageSize]
  cases k.config.maxPageSize with
  | none => exact Nat.le_refl _
  | some most => exact Nat.min_le_left _ most

theorem compilePage_of_nonneg (spec : PageSpec) (number : 0 ≤ spec.number.toInt) (size : 0 ≤ spec.size.toInt) :
    k.compilePage (some spec) = .ok (some ⟨spec.number.toInt.toNat, k.pageSize spec.size⟩) := by
  rw [compilePage, PageWindow.ofSpec, Word.ofInt64?, if_pos number, Word.ofInt64?, if_pos size, pageSize]
  cases k.config.maxPageSize <;> rfl

theorem compileSegment_withPage {segment : Segment} {c : CompiledSegment}
    (unpaged : k.compileSegment (segment.withPage none) = .ok c) {page : Option PageSpec} {w : Option PageWindow}
    (h : k.compilePage page = .ok w) : k.compileSegment (segment.withPage page) = .ok { c with page := w } := by
  rw [compileSegment_eq_ok_iff] at unpaged ⊢
  exact { unpaged with page := h }

end Compiler

variable {σ α : Type} [HasFields α]

inductive Way where
  | inTurn
  /-- In turn too, over a source that is waited for. -/
  | waitedFor
  | withWorkers (schedule : List WorkerStep)

namespace Way

def run [Sorter] : Way → CompiledSegment → Source σ α → σ → Run σ α
  | inTurn, c => c.execute
  | waitedFor, c => c.executeAsync
  | withWorkers schedule, c => fun source => c.executeParallel source schedule

def IsCalm : Way → Prop
  | withWorkers schedule => .cancel ∉ schedule
  | _ => True

theorem run_result [Sorter] {way : Way} (calm : way.IsCalm) {source : Source σ α}
    {answer : Predicate → Except FilterError (List α)} (lawful : source.IsLawful answer) (c : CompiledSegment) {s : σ}
    (low : source.isCancelled s = false) : (way.run c source s).result = (FixedSource.store answer).outcome c := by
  cases way with
  | inTurn => exact lawful.execute_result c low
  | waitedFor => exact lawful.executeAsync_result c low
  | withWorkers schedule => exact lawful.executeParallel_result c calm low

end Way

namespace Compiler

variable [Sorter]

def resultOf (k : Compiler) (way : Way) (segment : Segment) (source : Source σ α) (s : σ) : Except Stop (Page α) :=
  match k.compileSegment segment with
  | .error e => .error (.failed e)
  | .ok c => (way.run c source s).result

theorem execute_result_eq (k : Compiler) (segment : Segment) (source : Source σ α) (schedule : List WorkerStep)
    (s : σ) :
    (k.execute segment source schedule s).result =
      k.resultOf (if k.config.parallelSets then .withWorkers schedule else .inTurn) segment source s := by
  rw [execute, resultOf]
  cases k.compileSegment segment with
  | error e => rfl
  | ok c =>
    dsimp only
    rw [run]
    by_cases parallel : k.config.parallelSets = true
    · rw [if_pos parallel, if_pos parallel]
      rfl
    · rw [if_neg parallel, if_neg parallel]
      rfl

end Compiler

section Pages

variable [Sorter]

theorem CompiledSegment.finish_of_page {c : CompiledSegment} (unpaged : c.page = none) (w : PageWindow)
    (records : List α) : finish { c with page := some w } records = (c.finish records).map (Page.cut w) := by
  rw [c.finish_of_page_eq_none unpaged]
  change (orderRecords c.orders records).map _ = _
  cases hsorted : orderRecords c.orders records with
  | error stop => rfl
  | ok sorted =>
    have length : sorted.length = records.length := (orderRecords_perm hsorted).length_eq
    change Except.ok (Page.of (some w) records.length _) = Except.ok (Page.of (some w) sorted.length _)
    rw [length]
    rfl

theorem FixedSource.outcome_of_page (f : FixedSource α) {c : CompiledSegment} (unpaged : c.page = none)
    (w : PageWindow) : f.outcome { c with page := some w } = (f.outcome c).map (Page.cut w) := by
  have same : f.combined { c with page := some w } = f.combined c := rfl
  rw [outcome, outcome, same]
  cases f.combined c with
  | error e => rfl
  | ok records => exact CompiledSegment.finish_of_page unpaged w records

namespace Compiler

variable {k : Compiler} {way : Way} {source : Source σ α} {answer : Predicate → Except FilterError (List α)} {s : σ}
  {segment : Segment} {all : Page α} {size : Int64}

theorem resultOf_page (lawful : source.IsLawful answer) (calm : way.IsCalm) (low : source.isCancelled s = false)
    (unpaged : k.resultOf way (segment.withPage none) source s = .ok all) {page : PageSpec} {w : PageWindow}
    (h : k.compilePage (some page) = .ok (some w)) :
    k.resultOf way (segment.withPage (some page)) source s = .ok (all.cut w) := by
  rw [resultOf] at unpaged
  cases hc : k.compileSegment (segment.withPage none) with
  | error e =>
    rw [hc] at unpaged
    cases unpaged
  | ok c =>
    rw [hc] at unpaged
    dsimp only at unpaged
    rw [way.run_result calm lawful c low] at unpaged
    have bare : c.page = none := (k.compileSegment_eq_ok_iff.1 hc).page_eq_none rfl
    rw [resultOf, k.compileSegment_withPage hc h]
    dsimp only
    rw [way.run_result calm lawful _ low, FixedSource.outcome_of_page _ bare, unpaged]
    rfl

theorem resultOf_slice (lawful : source.IsLawful answer) (calm : way.IsCalm) (low : source.isCancelled s = false)
    (unpaged : k.resultOf way (segment.withPage none) source s = .ok all) (fits : all.data.length ≤ Word.max)
    (positive : 1 ≤ k.pageSize size) {number : Int64} (nonneg : 0 ≤ number.toInt) :
    k.resultOf way (segment.withPage (some ⟨number, size⟩)) source s =
      .ok (Page.slice all.data number.toInt.toNat (k.pageSize size)) := by
  have asked : 1 ≤ size.toInt.toNat := positive.trans (k.pageSize_le size)
  have size_nonneg : 0 ≤ size.toInt := by omega
  have window := k.compilePage_of_nonneg ⟨number, size⟩ nonneg size_nonneg
  rw [resultOf_page lawful calm low unpaged window,
    Page.cut_eq_slice fits positive]

/-- The pages of a result, run one by one, are the slices of the result, each of them told how many records and pages
there are; one after another they are the result, and there is nothing behind the last. A list has no more records
than a word counts, but the place of a page may lie beyond. -/
theorem pages_of_result (lawful : source.IsLawful answer) (calm : way.IsCalm) (low : source.isCancelled s = false)
    (unpaged : k.resultOf way (segment.withPage none) source s = .ok all) (fits : all.data.length ≤ Word.max)
    (positive : 1 ≤ k.pageSize size) :
    (∀ number : Int64, 0 ≤ number.toInt → ∃ page,
      k.resultOf way (segment.withPage (some ⟨number, size⟩)) source s = .ok page ∧
        page.data = all.data.extract ((max number.toInt.toNat 1 - 1) * k.pageSize size)
          (max number.toInt.toNat 1 * k.pageSize size) ∧
        page.total = all.data.length ∧ page.count = all.data.length ⌈/⌉ k.pageSize size ∧
        (page.count < number.toInt.toNat → page.data = [])) ∧
      ∀ pages < 2 ^ 63, ∃ parts,
        ((List.range pages).mapM fun i =>
          (k.resultOf way (segment.withPage (some ⟨Int64.ofNat (i + 1), size⟩)) source s).map Page.data) = .ok parts ∧
        parts.flatten = all.data.take (pages * k.pageSize size) ∧
        (all.data.length ⌈/⌉ k.pageSize size ≤ pages → parts.flatten = all.data) := by
  constructor
  · intro number nonneg
    refine ⟨_, resultOf_slice lawful calm low unpaged fits positive nonneg, rfl, rfl, rfl, ?_⟩
    exact Page.slice_data_of_count_lt positive
  · intro pages few
    have parts : ((List.range pages).mapM fun i =>
        (k.resultOf way (segment.withPage (some ⟨Int64.ofNat (i + 1), size⟩)) source s).map Page.data) =
          .ok ((List.range pages).map fun i => (Page.slice all.data (i + 1) (k.pageSize size)).data) := by
      rw [Outcome.mapM_eq_ok_iff, List.forall₂_map_right_iff, List.forall₂_same]
      intro i hi
      rw [List.mem_range] at hi
      have number : (Int64.ofNat (i + 1)).toInt = ((i + 1 : Nat) : Int) := Int64.toInt_ofNat_of_lt (by omega)
      rw [resultOf_slice lawful calm low unpaged fits positive (by omega), number, Int.toNat_natCast]
      rfl
    refine ⟨_, parts, Page.flatten_slices all.data (k.pageSize size) pages, fun enough => ?_⟩
    rw [ceilDiv_le_iff_le_mul positive, Nat.mul_comm] at enough
    rw [Page.flatten_slices, List.take_of_length_le enough]

end Compiler

end Pages

namespace Compiler

def lettered : List Record := [[("id", .text "d")], [("id", .text "a")], [("id", .text "e")], [("id", .text "b")],
  [("id", .text "c")]]

def pairFilters : Compiler := ⟨⟨"rows", [("id", .scalar .text)], none⟩, { Config.standard with maxPageSize := some 2 }⟩

def byLetter : Segment := ⟨[], some [⟨0, "id", .ascending⟩], none⟩

def sortedLetters : Page Record := ⟨1, 5, 1, 5, [[("id", .text "a")], [("id", .text "b")], [("id", .text "c")],
  [("id", .text "d")], [("id", .text "e")]]⟩

/-- The third page is short, and the last page that can be asked for begins where no word counts to. -/
theorem pages_of_result_lettered :
    (Source.memory lettered).IsLawful (FixedSource.memory lettered).answer ∧ Way.inTurn.IsCalm ∧
      (Source.memory lettered).isCancelled false = false ∧
      pairFilters.resultOf .inTurn (byLetter.withPage none) (.memory lettered) false = .ok sortedLetters ∧
      sortedLetters.data.length ≤ Word.max ∧ 1 ≤ pairFilters.pageSize 500 ∧
      (∃ page, pairFilters.resultOf .inTurn (byLetter.withPage (some ⟨3, 500⟩)) (.memory lettered) false = .ok page ∧
        page.data = [[("id", .text "e")]] ∧ page.total = 5 ∧ page.count = 3) ∧
      (∃ page, pairFilters.resultOf .inTurn (byLetter.withPage (some ⟨Int64.maxValue, 500⟩)) (.memory lettered) false =
        .ok page ∧ page.data = []) ∧
      ∃ parts, ((List.range 3).mapM fun i => (pairFilters.resultOf .inTurn
        (byLetter.withPage (some ⟨Int64.ofNat (i + 1), 500⟩)) (.memory lettered) false).map Page.data) = .ok parts ∧
          parts.flatten = sortedLetters.data := by
  have lawful := (FixedSource.memory lettered).isLawful_source
  have unpaged : pairFilters.resultOf .inTurn (byLetter.withPage none) (.memory lettered) false =
      .ok sortedLetters := by
    cbv
  have fits : sortedLetters.data.length ≤ Word.max := by decide
  have positive : 1 ≤ pairFilters.pageSize 500 := by decide
  have calm : Way.inTurn.IsCalm := trivial
  obtain ⟨pages, together⟩ := pages_of_result lawful calm rfl unpaged fits positive
  obtain ⟨third, run_third, data, total, count, -⟩ := pages 3 (by decide)
  obtain ⟨last, run_last, -, -, count_last, behind⟩ := pages Int64.maxValue (by decide)
  obtain ⟨parts, run_parts, -, whole⟩ := together 3 (by norm_num)
  refine ⟨lawful, calm, rfl, unpaged, fits, positive, ⟨third, run_third, data, total, ?_⟩, ⟨last, run_last, ?_⟩,
    parts, run_parts, whole (by decide)⟩
  · rw [count]
    rfl
  · refine behind ?_
    rw [count_last]
    decide

end Compiler

end RecordFilter
