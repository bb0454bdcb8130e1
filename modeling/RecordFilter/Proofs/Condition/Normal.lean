import Mathlib
import RecordFilter.Compiler.Group
import RecordFilter.Proofs.Condition.Basic
import RecordFilter.Proofs.Path.Resolution

set_option autoImplicit false

namespace RecordFilter

namespace Condition

variable (c : Condition) (field : String)

theorem literals_with_field (most : Nat) :
    ({ c with field := field }.literals most).mapError FilterError.code =
      (c.literals most).mapError FilterError.code := by
  have counted : { c with field := field }.countFault? most = c.countFault? most := rfl
  unfold literals
  rw [counted]
  split
  · rfl
  · split
    · rfl
    · split <;> rfl

end Condition

namespace Compiler

variable (k : Compiler) {c c' : Condition}

theorem normalize_eq_ok_iff :
    k.normalize c = .ok c' ↔ ∃ path, k.schema.resolve c.field = .ok path ∧ { c with field := path.canonical } = c' :=
  Outcome.map_eq_ok_iff

theorem normalize_normalized (h : k.normalize c = .ok c') : k.normalize c' = .ok c' := by
  obtain ⟨path, resolved, rfl⟩ := k.normalize_eq_ok_iff.1 h
  exact k.normalize_eq_ok_iff.2 ⟨path, Schema.resolve_canonical resolved, rfl⟩

theorem compileCondition_normalized (h : k.normalize c = .ok c') :
    (k.compileCondition c').mapError FilterError.code = (k.compileCondition c).mapError FilterError.code := by
  obtain ⟨path, resolved, rfl⟩ := k.normalize_eq_ok_iff.1 h
  rw [compileCondition, compileCondition, resolved, Schema.resolve_canonical resolved]
  exact Outcome.mapError_bind (c.literals_with_field path.canonical k.config.maxInValues) (c.predicate path)

/-- Resolving the words of the schema for a path gives the same path again. Hence a normalised condition is normal, and
it compiles as the condition itself does, to the same predicate or to an error with the same code. -/
theorem normalize_fixed :
    (∀ text path, k.schema.resolve text = .ok path → k.schema.resolve path.canonical = .ok path) ∧
      ∀ c c', k.normalize c = .ok c' →
        c' = { c with field := c'.field } ∧ k.normalize c' = .ok c' ∧
          (k.compileCondition c').mapError FilterError.code = (k.compileCondition c).mapError FilterError.code := by
  refine ⟨fun text path resolved => Schema.resolve_canonical resolved, fun c c' h => ⟨?_, ?_, ?_⟩⟩
  · obtain ⟨path, -, rfl⟩ := k.normalize_eq_ok_iff.1 h
    rfl
  · exact k.normalize_normalized h
  · exact k.compileCondition_normalized h

def sampleFilters : Compiler :=
  ⟨⟨"sample", [("Δ", .list (.record [("A", .scalar .number), ("a", .scalar .text)]))], none⟩, .standard⟩

def blankTest : Condition := ⟨1, " δ . .a", .text, .equal, [" "]⟩

theorem blankTest_normalize_fixed :
    sampleFilters.schema.resolve "Δ.a" = .ok ⟨[⟨"Δ", 1⟩, ⟨"a", 0⟩], .text⟩ ∧
      sampleFilters.normalize blankTest = .ok { blankTest with field := "Δ.a" } ∧
      sampleFilters.normalize { blankTest with field := "Δ.a" } = .ok { blankTest with field := "Δ.a" } ∧
      sampleFilters.compileCondition blankTest = .error (.invalidValue " δ . .a") ∧
      (sampleFilters.compileCondition { blankTest with field := "Δ.a" }).mapError FilterError.code =
        .error "InvalidValue" := by
  obtain ⟨canonical, normal⟩ := normalize_fixed sampleFilters
  have resolved : sampleFilters.schema.resolve " δ . .a" = .ok ⟨[⟨"Δ", 1⟩, ⟨"a", 0⟩], .text⟩ := rfl
  have normalized : sampleFilters.normalize blankTest = .ok { blankTest with field := "Δ.a" } :=
    sampleFilters.normalize_eq_ok_iff.2 ⟨_, resolved, rfl⟩
  have refused : sampleFilters.compileCondition blankTest = .error (.invalidValue " δ . .a") := rfl
  obtain ⟨-, again, alike⟩ := normal _ _ normalized
  rw [refused] at alike
  exact ⟨canonical _ _ resolved, normalized, again, refused, alike⟩

end Compiler

end RecordFilter
