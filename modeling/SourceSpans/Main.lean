import SourceSpans.Tool.Summaries

/-!
# The program

One program holds the three tools and acts as the one whose name it is called
by.  What a tool does is decided elsewhere; here arguments are taken in, output
is put out and files are read and written.
-/

namespace SourceSpans

namespace Run

/-- Put out what a run printed and give its exit status. -/
def finish (run : Run) : IO UInt32 := do
  IO.print (Text.toDisplay run.out)
  IO.eprint (Text.toDisplay run.err)
  match run.ending with
  | .status code => return UInt32.ofNat code
  | .fault f =>
      let message := f.message?.getD Fault.overlongMessage
      IO.eprint (Text.toDisplay message.withNewline)
      return 1

end Run

/-- The file that is renewed when no path is given; it stands beside the directory of
the program. -/
def usualBaseline : IO String := do
  let above := (← IO.appPath).parent.bind fun directory => directory.parent
  return (above.getD "." / "tests" / "fixtures" / "combinator_baseline.txt").toString

/-- Renew the file at the path that the arguments give. -/
def renewFile (args : List Text) : IO UInt32 := do
  match RenewalTool.path (← usualBaseline) args with
  | .error stop => (Run.ofStop stop).finish
  | .ok (.text path) =>
      let name := (← IO.FS.realPath (Text.toDisplay path)).toString
      let bytes := (← IO.FS.readBinFile name).toList
      let result := renewalTool name bytes
      if result.bytes ≠ bytes then
        IO.FS.writeBinFile name ⟨result.bytes.toArray⟩
      result.run.finish
  | .ok other => (Run.mk (.fault (.notPath other.kind)) [] []).finish

end SourceSpans

open SourceSpans in
def main (args : List String) : IO UInt32 := do
  let args := args.map Text.ofString
  let name := Text.ofString ((← IO.appPath).fileName.getD "")
  if name = ListingTool.grammar.program then (listingTool args).finish
  else if name = RenewalTool.grammar.program then renewFile args
  else (spanTool args).finish
