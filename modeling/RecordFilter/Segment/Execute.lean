import RecordFilter.Compiler.Segment
import RecordFilter.Segment.Workers
import RecordFilter.Spec.Reader

set_option autoImplicit false

namespace RecordFilter.Compiler

variable {σ α : Type} [HasFields α] [Sorter]

/-- Runs a compiled segment, with workers that follow the schedule if the limits ask for workers. -/
def run (k : Compiler) (c : CompiledSegment) (source : Source σ α) (schedule : List WorkerStep) (s : σ) : Run σ α :=
  if k.config.parallelSets then c.executeParallel source schedule s else c.execute source s

def execute (k : Compiler) (segment : Segment) (source : Source σ α) (schedule : List WorkerStep) (s : σ) : Run σ α :=
  match k.compileSegment segment with
  | .error e => CompiledSegment.stopped (.failed e) s
  | .ok c => k.run c source schedule s

def executeText (k : Compiler) (text : String) (source : Source σ α) (schedule : List WorkerStep) (s : σ) :
    Run σ α :=
  match Segment.ofText text with
  | .error e => CompiledSegment.stopped (.failed e) s
  | .ok segment => k.execute segment source schedule s

end RecordFilter.Compiler
