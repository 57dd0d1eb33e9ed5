import SourceSpans.Summary
import SourceSpans.Tool.Arguments

/-!
# The tools for summaries

The listing tool prints the summaries of a walk.  The renewal tool renews a file of
summaries in place and prints where the file is; when the file cannot be renewed it
stays as it was, and nothing is printed.
-/

namespace SourceSpans

/-! ## Listings -/

open CommandLine

namespace ListingTool

structure Setting where
  seed : Value
  count : Value

def usage : Text := "usage: dump_corpus [-h] [--seed SEED] [--count COUNT]\n"

def help : Text :=
  usage ++
  ("\noptions:\n" ++
  "  -h, --help     show this help message and exit\n" ++
  "  --seed SEED\n" ++
  "  --count COUNT\n")

def grammar : Grammar Setting where
  program := "dump_corpus"
  usage := usage
  help := help
  options :=
    [ Opt.help,
      ⟨["--seed"], .value (single readInteger fun v state => { state with seed := v })⟩,
      ⟨["--count"], .value (single readInteger fun v state => { state with count := v })⟩ ]
  positionals := []

def list (setting : Setting) : Run :=
  match setting.seed.int?, setting.count.int? with
  | none, _ => ⟨.fault .unusableSeed, [], []⟩
  | some _, none => ⟨.fault (.notCount setting.count.kind), [], []⟩
  | some seed, some count =>
      match Walk.spans seed count Walk.defaultReach with
      | .error f => ⟨.fault f, [], []⟩
      | .ok spans => Run.printing (Summary.listing spans)

end ListingTool

def listingTool (args : List Text) : Run :=
  match ListingTool.grammar.readFully ⟨.int 1, .int 100⟩ args with
  | .error stop => Run.ofStop stop
  | .ok setting => ListingTool.list setting

/-! ## Renewals -/

/-- A run on a file, with the bytes that the file holds afterwards. -/
structure FileRun where
  run : Run
  bytes : List UInt8

def renewalTool (path : Text) (bytes : List UInt8) : FileRun :=
  match Summary.renewBytes bytes with
  | .error f => ⟨⟨.fault f, [], []⟩, bytes⟩
  | .ok renewed => ⟨⟨.status 0, path.withNewline, []⟩, renewed⟩

namespace RenewalTool

def usage : Text := "usage: update_baseline [-h] [--path PATH]\n"

def help : Text :=
  usage ++
  ("\noptions:\n" ++
  "  -h, --help   show this help message and exit\n" ++
  "  --path PATH\n")

/-- The grammar of the tool, whose only setting is the path of the file. -/
def grammar : Grammar Value where
  program := "update_baseline"
  usage := usage
  help := help
  options :=
    [Opt.help, ⟨["--path"], .value (single readText fun v _ => v)⟩]
  positionals := []

/-- The path that a command line gives, or else the usual one. -/
def path (usual : Text) (args : List Text) : Except Stop Value :=
  grammar.readFully (.text usual) args

end RenewalTool

end SourceSpans
