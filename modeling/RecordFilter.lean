import RecordFilter.Cancellation
import RecordFilter.Capture
import RecordFilter.Compiler.Notes
import RecordFilter.Config.Reading
import RecordFilter.LogSetup
import RecordFilter.Predicate.Explain
import RecordFilter.Proofs.Condition.Meaning
import RecordFilter.Proofs.Group.Meaning
import RecordFilter.Proofs.Segment.Agreement
import RecordFilter.Proofs.Segment.Calls
import RecordFilter.Proofs.Segment.Joining
import RecordFilter.Proofs.Segment.Paging
import RecordFilter.Proofs.Segment.Selection
import RecordFilter.Proofs.Segment.Stages
import RecordFilter.Segment.Execute
import RecordFilter.Spec.Printer
import RecordFilter.Value.Basic
import RecordFilter.Proofs.Segment.KeyFaults
import RecordFilter.Proofs.Condition.Conformity
import RecordFilter.Proofs.Condition.Validity
import RecordFilter.Proofs.Group.Validity
import RecordFilter.Proofs.Rearrangement
import RecordFilter.Proofs.Record.Sorting
import RecordFilter.Proofs.Json.Reading
import RecordFilter.Proofs.Spec.RoundTrip
import RecordFilter.Proofs.Pattern.Matching
import RecordFilter.Proofs.Pattern.Search
import RecordFilter.Proofs.Guid
import RecordFilter.Proofs.Literal.Printing
import RecordFilter.Proofs.Number.Printing
import RecordFilter.Proofs.Number.Reading
import RecordFilter.Proofs.Value.Coercion
import RecordFilter.Proofs.Condition.Negation
import RecordFilter.Proofs.Text.FinalSigma
import RecordFilter.Proofs.Condition.Casing
import RecordFilter.Proofs.Text.AsciiCase
import RecordFilter.Proofs.Condition.AsciiCase
import RecordFilter.Proofs.Number.Real
import RecordFilter.Proofs.Condition.Spelling
import RecordFilter.Proofs.Record.Identity
import RecordFilter.Proofs.Text.Parts
import RecordFilter.Proofs.Text.Quoting
import RecordFilter.Proofs.Segment.Trace
import RecordFilter.Proofs.Bench
import RecordFilter.Proofs.Capture
import RecordFilter.Proofs.Predicate.Quoting
import RecordFilter.Proofs.Value.Reading
import RecordFilter.Proofs.Calendar.Printing
import RecordFilter.Proofs.Calendar.Reading
import RecordFilter.Proofs.Value.Dates
import RecordFilter.Proofs.Text.Separators
import RecordFilter.Proofs.Path.Names
import RecordFilter.Proofs.Condition.Normal
import RecordFilter.Proofs.Path.Spelling
