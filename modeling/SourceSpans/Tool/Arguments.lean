import SourceSpans.CommandLine
import SourceSpans.Tool.Request

/-!
# The command line of the span tool

The tool has a few options of its own, a command, and arguments that depend on
the command.  A command judges its own arguments; what it leaves over, together
with what was left over before it, the tool rejects.
-/

namespace SourceSpans

open CommandLine

/-- The run of a command line that asks for help or cannot be used. -/
def Run.ofStop : Stop → Run
  | .help text => ⟨.status 0, text, []⟩
  | .misuse text => ⟨.status 2, [], text⟩

namespace Arguments

/-! ## The arguments of the commands -/

def helpRow : Text := "\noptions:\n  -h, --help  show this help message and exit\n"

def commandHelp (usage : Text) (labels : List Text) : Text :=
  usage ++ "\npositional arguments:\n" ++
    labels.flatMap (fun label => ("  " : Text) ++ label.withNewline) ++ helpRow

def commandGrammar {σ : Type} (name shape : Text)
    (positionals : List (Positional σ)) : Grammar σ :=
  let program := "textspan " ++ name
  let usage := ("usage: " ++ program ++ " [-h] " ++ shape).withNewline
  { program := program
    usage := usage
    help := commandHelp usage (positionals.map Positional.label)
    options := [Opt.help]
    positionals := positionals }

def format : Grammar (Value × Value) :=
  commandGrammar "format" "start length"
    [ ⟨"start", .one, single readInteger fun v state => (v, state.2)⟩,
      ⟨"length", .one, single readInteger fun v state => (state.1, v)⟩ ]

def parse : Grammar (List Text) :=
  commandGrammar "parse" "SPAN [SPAN ...]"
    [⟨"SPAN", .many, texts fun values _ => values⟩]

def pair (op : PairOp) : Grammar (Value × Value) :=
  commandGrammar (Summary.opName op) "A B"
    [ ⟨"A", .one, single readText fun v state => (v, state.2)⟩,
      ⟨"B", .one, single readText fun v state => (state.1, v)⟩ ]

/-- The request that a command makes with its arguments, and the arguments it
leaves over. -/
def request : Command → List Text → Except Stop (Request × List Text)
  | .format, args =>
      (format.read (.null, .null) args).map fun (state, leftOver) =>
        (.format state.1 state.2, leftOver)
  | .parse, args =>
      (parse.read [] args).map fun (state, leftOver) =>
        (.parse state, leftOver)
  | .pair op, args =>
      ((pair op).read (.null, .null) args).map fun (state, leftOver) =>
        (.pair op state.1 state.2, leftOver)

/-! ## The arguments of the tool -/

/-- What the options of the tool set, and the command with all that follows
it. -/
structure Setting where
  json : Bool
  verbose : Bool
  command : List Text

def toolUsage : Text :=
  "usage: textspan [-h] [--json] [-v]\n" ++
  "                \x7bformat,parse,enclosing,gap,inner,overlaps\x7d ...\n"

def toolHelp : Text :=
  toolUsage ++
  ("\nCompute and convert source text spans\n" ++
  "\npositional arguments:\n" ++
  "  \x7bformat,parse,enclosing,gap,inner,overlaps\x7d\n" ++
  "    format              Print the canonical [start:end] form\n" ++
  "    parse               Parse [start:end] text\n" ++
  "    enclosing           Span from the earlier start to the later span's end\n" ++
  "    gap                 Span strictly between two spans\n" ++
  "    inner               Span from the start of A up to the start of B\n" ++
  "    overlaps            Whether two spans share an offset\n" ++
  "\noptions:\n" ++
  "  -h, --help            show this help message and exit\n" ++
  "  --json                Print results as JSON\n" ++
  "  -v, --verbose         Enable debug logging\n")

def tool : Grammar Setting where
  program := "textspan"
  usage := toolUsage
  help := toolHelp
  options :=
    [ Opt.help,
      ⟨["--json"], .flag fun state => { state with json := true }⟩,
      ⟨["-v", "--verbose"], .flag fun state => { state with verbose := true }⟩ ]
  positionals :=
    [ ⟨"command", .rest,
        texts fun values state => { state with command := values }⟩ ]

def noCommand (name : Text) : Stop :=
  tool.refuse "command"
    ("invalid choice: " ++ Quoted.ofText name ++ " (choose from " ++
      Text.join ", " (Command.all.map fun c => Quoted.ofText c.name) ++ ")")

/-- The presentation and the request that a command line asks for. -/
def read (args : List Text) : Except Stop (Presentation × Request) := do
  let (setting, before) ← tool.read ⟨false, false, []⟩ args
  match setting.command with
  | [] => throw (noCommand [])
  | name :: rest =>
      match Command.named? name with
      | none => throw (noCommand name)
      | some command =>
          let (request, after) ← request command rest
          if (before ++ after).isEmpty then
            return (⟨setting.json, setting.verbose⟩, request)
          else throw (tool.unrecognized (before ++ after))

end Arguments

def spanTool (args : List Text) : Run :=
  match Arguments.read args with
  | .error stop => Run.ofStop stop
  | .ok (how, request) => request.run how

end SourceSpans
