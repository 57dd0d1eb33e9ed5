import SourceSpans.Fault
import SourceSpans.Span.Basic
import SourceSpans.Span.Bracketed
import SourceSpans.Text.Quoted
import SourceSpans.Value.Equality

/-!
# Spans from values

Spans are made from values, read from values and combined as values.  Each operation
says first what is wrong with its arguments, in their order, and is then the operation
on spans.  The reader of bracketed forms keeps a log of what it rejects.
-/

namespace SourceSpans

/-! ## The debug log -/

namespace Log

inductive Speaker where
  | reader
  | commandLine
  deriving DecidableEq

def Speaker.name : Speaker → Text
  | .reader => "textspan.spans"
  | .commandLine => "textspan.cli"

structure Entry where
  speaker : Speaker
  message : Text
  deriving DecidableEq

/-- The record as a line, without its newline. -/
def Entry.line (e : Entry) : Text :=
  "DEBUG " ++ e.speaker.name ++ ": " ++ e.message

/-- The record of a rejected text.  A text with overlong numbers is cut. -/
def rejected (t : Text) (why : Bracketed.Rejection) : Entry where
  speaker := .reader
  message :=
    match why with
    | .noMatch => "rejected span text " ++ Quoted.ofText t ++ ": no match"
    | .unreadable =>
        "rejected span text " ++ Quoted.ofText (t.take 64) ++
          ": offset is not a convertible integer"
    | .reversed =>
        "rejected span text " ++ Quoted.ofText t ++ ": end before start"

def running (command : Text) : Entry where
  speaker := .commandLine
  message := "running " ++ command

end Log

/-! ## Making, reading and combining -/

def Finding.value : Finding → Value
  | .span s => .span s
  | .truth b => .bool b

namespace Value

/-- The integer that a value is; a truth value is none. -/
def int? : Value → Option Int
  | .int n => some n
  | _ => none

/-- The span with the given start and length.  Both must be integers before
either is judged. -/
def makeSpan (start length : Value) : Except Fault Span :=
  match start.int? with
  | none => .error (.notInteger .start start.kind)
  | some s =>
      match length.int? with
      | none => .error (.notInteger .length length.kind)
      | some l => (Span.ofInts s l).mapError Fault.ofNegative

/-- The attempt to set a part of a span, which never changes. -/
def setField (_span : Value) (name : Text) (_value : Value) :
    Except Fault Value := .error (.fixedField name)

def asSpan (v : Value) : Except Fault Span :=
  match v.span? with
  | some s => .ok s
  | none => .error (.notSpanLike v.kind)

/-- The answer to a question about two values that are or occupy spans. -/
def answer (op : PairOp) (a b : Value) : Except Fault Finding :=
  match a.asSpan with
  | .error e => .error e
  | .ok s =>
      match b.asSpan with
      | .error e => .error e
      | .ok t => (op.answer s t).mapError Fault.ofNegative

/-- The span whose bracketed form a value is, if it is one, and the records
kept on the way.  A value that is no text is passed over in silence. -/
def readSpan? : Value → Option Span × List Log.Entry
  | .text t =>
      match Bracketed.read t with
      | .ok s => (some s, [])
      | .error why => (none, [Log.rejected t why])
  | _ => (none, [])

/-- The span whose bracketed form a value must be, and the records kept on the
way. -/
def readSpan (v : Value) : Except Complaint Span × List Log.Entry :=
  match v.readSpan? with
  | (some s, log) => (.ok s, log)
  | (none, log) => (.error (.malformed v), log)

/-! ## There and back -/

/-- What comes of writing a value and reading the text. -/
structure RoundTrip where
  text : Text
  span : Span
  unchanged : Bool

/-- Write a value and read the text as the bracketed form of a span. -/
def roundTrip (v : Value) : Except Fault RoundTrip :=
  match v.display? with
  | none => .error .overlong
  | some t =>
      match (Value.text t).readSpan.1 with
      | .error c => .error (.complaint c)
      | .ok s => .ok ⟨t, s, Value.same (.span s) v⟩

end Value

end SourceSpans
