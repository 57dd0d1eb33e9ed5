import SourceSpans.Main
import SourceSpans.Value.Equality
import SourceSpans.Value.Spans
import SourceSpans.Proofs.Numeral.LeadingZeros
import SourceSpans.Proofs.Span.Reading
import SourceSpans.Proofs.Text.Within
import SourceSpans.Proofs.Span.Codec
import SourceSpans.Proofs.Text.Utf8
import SourceSpans.Proofs.Summary.Line
import SourceSpans.Proofs.Random.Seeded
import SourceSpans.Proofs.Random.Rejection
import SourceSpans.Proofs.Random.Walk
import SourceSpans.Proofs.Summary.Listing
import SourceSpans.Proofs.Summary.Renewal
import SourceSpans.Proofs.CommandLine.Stored
import SourceSpans.Proofs.Text.Quoted
import SourceSpans.Proofs.Numeral.Typed
import SourceSpans.Proofs.Value.Json
import SourceSpans.Proofs.Tool.Printing
import SourceSpans.Proofs.Tool.Arguments
import SourceSpans.Proofs.Tool.Results
import SourceSpans.Proofs.Tool.Outcome
import SourceSpans.Proofs.Tool.Expression
import SourceSpans.Proofs.Tool.Listing
import SourceSpans.Proofs.Span.Grouping
import SourceSpans.Proofs.Span.Tiling
import SourceSpans.Proofs.Span.Pair
import SourceSpans.Proofs.Summary.Refusal
import SourceSpans.Proofs.Tool.Presentation
import SourceSpans.Proofs.Value.SpanLike
import SourceSpans.Proofs.Tool.AllOrNothing
import SourceSpans.Proofs.Value.Json.Unique
import SourceSpans.Proofs.Value.Json.Nested
