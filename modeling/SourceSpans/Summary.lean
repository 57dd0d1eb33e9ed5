import SourceSpans.Random.Walk
import SourceSpans.Text.Lines
import SourceSpans.Value.Spans

/-!
# Summaries of pairs

A pair of spans is summarised by one line: the two spans and the answer to every
question about them.  A file of summaries holds such lines between blank lines and
comments, and a listing summarises each two neighbours of a walk.
-/

namespace SourceSpans

/-! ## Lines -/

namespace Summary

/-- The mark of an impossible combination. -/
def impossible : Text := "!"

def findingText? : Finding → Option Text
  | .span s => Bracketed.ofSpan? s
  | .truth b => some (if b then "true" else "false")

def entryText? : Except Span.Negative Finding → Option Text
  | .ok finding => findingText? finding
  | .error _ => some impossible

def opName : PairOp → Text
  | .enclosing => "enclosing"
  | .gap => "gap"
  | .inner => "inner"
  | .overlaps => "overlaps"

def entry? (op : PairOp) (a b : Span) : Option Text :=
  (entryText? (op.answer a b)).map fun t => opName op ++ "=" ++ t

/-- The line of two spans that are named by the given texts. -/
def lineOf? (nameA nameB : Text) (a b : Span) : Option Text := do
  let enclosing ← entry? .enclosing a b
  let gap ← entry? .gap a b
  let inner ← entry? .inner a b
  let overlaps ← entry? .overlaps a b
  return Text.join " " [nameA, nameB, enclosing, gap, inner, overlaps]

def line? (a b : Span) : Option Text := do
  let nameA ← Bracketed.ofSpan? a
  let nameB ← Bracketed.ofSpan? b
  lineOf? nameA nameB a b

end Summary

namespace Value

/-- The summary of two values that are or occupy spans.  They are named before
they are looked at. -/
def summary (a b : Value) : Except Fault Text :=
  match a.display?, b.display? with
  | some nameA, some nameB => do
      let s ← a.asSpan
      let t ← b.asSpan
      match Summary.lineOf? nameA nameB s t with
      | some line => .ok line
      | none => .error .overlong
  | _, _ => .error .overlong

end Value

/-! ## Files -/

namespace Summary

/-- A line that is kept as it is. -/
def isKept (line : Text) : Bool :=
  line.isBlank || line.head? == some ('#' : CodePoint)

def wordSpan (word : Text) : Except Fault Span :=
  (Value.text word).readSpan.1.mapError Fault.complaint

/-- A line written anew from its first two words. -/
def renewWords : List Text → Except Fault Text
  | first :: second :: _ => do
      let a ← wordSpan first
      let b ← wordSpan second
      match line? a b with
      | some line => .ok line
      | none => .error .overlong
  | few => .error (.tooFew 2 few.length)

def renewLine (line : Text) : Except Fault Text :=
  if isKept line then .ok line else renewWords line.words

/-- The renewed lines; the first failure counts. -/
def renewLines : List Text → Except Fault (List Text)
  | [] => .ok []
  | line :: rest => do
      let renewed ← renewLine line
      let others ← renewLines rest
      return renewed :: others

/-- The renewed contents of a file, always ended by a newline. -/
def renew (contents : Text) : Except Fault Text :=
  (renewLines contents.unifyNewlines.lines).map fun lines =>
    (Text.join "\n" lines).withNewline

def renewBytes (bytes : List UInt8) : Except Fault (List UInt8) := do
  let contents ← (Utf8.decode bytes).mapError Fault.undecodable
  let renewed ← renew contents
  return Utf8.encode renewed

/-! ## Listings -/

def neighbours : List Span → List (Span × Span)
  | [] => []
  | [_] => []
  | a :: b :: rest => (a, b) :: neighbours (b :: rest)

def pairLine (pair : Span × Span) : Except Fault Text :=
  match line? pair.1 pair.2 with
  | some line => .ok line
  | none => .error .overlong

/-- The lines about a walk, as far as they can be written. -/
def listing (spans : List Span) : List (Except Fault Text) :=
  (neighbours spans).map pairLine

end Summary

end SourceSpans
