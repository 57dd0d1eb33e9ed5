import SourceSpans.Fault
import SourceSpans.Summary
import SourceSpans.Value.Json

/-!
# Requests

A request is what the span tool is asked to compute.  All its results are computed
before any is printed; a complaint on the way is reported instead of results.  How
results are printed, and whether the log is shown, changes nothing about what is
computed.
-/

namespace SourceSpans

/-! ## What a command leaves behind -/

inductive Ending where
  | status (code : Nat)
  | fault (f : Fault)

/-- A finished command. -/
structure Run where
  ending : Ending
  out : Text
  err : Text

namespace Run

/-- The run that prints the given lines and ends well, or stops at the first
line that cannot be written. -/
def printing : List (Except Fault Text) → Run
  | [] => ⟨.status 0, [], []⟩
  | .error f :: _ => ⟨.fault f, [], []⟩
  | .ok line :: rest =>
      let run := printing rest
      { run with out := line.withNewline ++ run.out }

/-- The run with something said on the error stream before. -/
def after (err : Text) (run : Run) : Run := { run with err := err ++ run.err }

end Run

/-! ## Requests -/

inductive Command where
  | format
  | parse
  | pair (op : PairOp)
  deriving DecidableEq

/-- A command with its arguments.  An argument that was left out by means of
two dashes is an empty list; the others are integers and texts. -/
inductive Request where
  | format (start length : Value)
  | parse (texts : List Text)
  | pair (op : PairOp) (a b : Value)

/-- How results are presented. -/
structure Presentation where
  json : Bool
  verbose : Bool

namespace Command

def all : List Command :=
  [.format, .parse, .pair .enclosing, .pair .gap, .pair .inner, .pair .overlaps]

def name : Command → Text
  | .format => "format"
  | .parse => "parse"
  | .pair op => Summary.opName op

def named? (name : Text) : Option Command :=
  all.find? fun command => command.name == name

end Command

namespace Request

def command : Request → Command
  | .format _ _ => .format
  | .parse _ => .parse
  | .pair op _ _ => .pair op

/-! ### Computing -/

/-- What a request comes to: its results or what is wrong, and the records kept
on the way. -/
abbrev Outcome (α : Type) := Except Fault α × List Log.Entry

/-- Read each text in turn, up to the first that is rejected. -/
def readAll : List Text → Outcome (List Span)
  | [] => (.ok [], [])
  | t :: rest =>
      match (Value.text t).readSpan with
      | (.error c, log) => (.error (.complaint c), log)
      | (.ok s, log) =>
          let (others, more) := readAll rest
          (others.map (s :: ·), log ++ more)

/-- Read two arguments and answer a question about their spans. -/
def answer (op : PairOp) (a b : Value) : Outcome Finding :=
  match a.readSpan with
  | (.error c, log) => (.error (.complaint c), log)
  | (.ok s, log) =>
      match b.readSpan with
      | (.error c, more) => (.error (.complaint c), log ++ more)
      | (.ok t, more) =>
          ((op.answer s t).mapError Fault.ofNegative, log ++ more)

def results : Request → Outcome (List Finding)
  | .format start length =>
      ((Value.makeSpan start length).map fun s => [.span s], [])
  | .parse texts =>
      let (spans, log) := readAll texts
      (spans.map fun ss => ss.map .span, log)
  | .pair op a b =>
      let (finding, log) := answer op a b
      (finding.map ([·]), log)

/-! ### Printing -/

def numbersText? (s : Span) : Option Text := do
  let start ← Numeral.ofNat? s.start
  let length ← Numeral.ofNat? s.length
  let stop ← Numeral.ofNat? s.stop
  return "start=" ++ start ++ " length=" ++ length ++ " end=" ++ stop

def plainLine? (command : Command) : Finding → Option Text
  | .span s =>
      if command = .parse then numbersText? s else Bracketed.ofSpan? s
  | .truth b => some (Json.ofBool b)

def line (json : Bool) (command : Command) (finding : Finding) :
    Except Fault Text :=
  if json then finding.value.json
  else
    match plainLine? command finding with
    | some t => .ok t
    | none => .error .overlong

/-- The run that ends without results.  A complaint is reported, any other
fault ends the command. -/
def failing : Fault → Run
  | .complaint c =>
      match c.message? with
      | some message =>
          ⟨.status 1, [], (("textspan: error: " : Text) ++ message).withNewline⟩
      | none => ⟨.fault .overlong, [], []⟩
  | f => ⟨.fault f, [], []⟩

/-- The log on the error stream, when it is shown. -/
def logText (verbose : Bool) (log : List Log.Entry) : Text :=
  if verbose then Text.ofLines (log.map Log.Entry.line) else []

def run (how : Presentation) (request : Request) : Run :=
  let (outcome, log) := request.results
  let run :=
    match outcome with
    | .error f => failing f
    | .ok findings =>
        Run.printing (findings.map (line how.json request.command))
  run.after (logText how.verbose (Log.running request.command.name :: log))

end Request

end SourceSpans
