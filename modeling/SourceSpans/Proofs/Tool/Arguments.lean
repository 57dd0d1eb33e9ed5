import SourceSpans.Proofs.CommandLine.Operands
import SourceSpans.Proofs.CommandLine.Stored
import SourceSpans.Proofs.Numeral.Typed
import SourceSpans.Proofs.Value.Literal
import SourceSpans.Tool.Arguments

/-!
# The values that requests are made with

Whatever is typed, the values that reach a request can be shown in a message of
one line: a typed integer has no more digits than a numeral, and texts are
quoted.  Arguments without a dash in front reach it as they stand.
-/

namespace SourceSpans

open CommandLine Success

namespace CommandLine

theorem presentable_of_readText {t : Text} {v : Value} (h : readText t = .ok v) :
    v.Presentable := by
  obtain rfl := Except.ok.inj h
  exact Value.presentable_text t

theorem presentable_of_readInteger {t : Text} {v : Value}
    (h : readInteger t = .ok v) : v.Presentable := by
  unfold readInteger at h
  split at h
  next n hn =>
    obtain rfl := Except.ok.inj h
    exact Value.presentable_int_iff.mpr (Numeral.natAbs_lt_of_typedInt? hn)
  next => simp at h

end CommandLine

/-- The values of the request can be shown in messages of one line. -/
def Request.Presentable : Request → Prop
  | .format start length => start.Presentable ∧ length.Presentable
  | .parse _ => True
  | .pair _ a b => a.Presentable ∧ b.Presentable

namespace Arguments

/-- Two arguments that are set one after the other. -/
def inTurn (read : Text → Except Text Value) (first second : Text) :
    List (Positional (Value × Value)) :=
  [ ⟨first, .one, single read fun v state => (v, state.2)⟩,
    ⟨second, .one, single read fun v state => (state.1, v)⟩ ]

theorem format_eq : format =
    commandGrammar "format" "start length" (inTurn readInteger "start" "length") :=
  rfl

theorem pair_eq (op : PairOp) : pair op =
    commandGrammar (Summary.opName op) "A B" (inTurn readText "A" "B") := rfl

section InTurn

variable {read : Text → Except Text Value} {name shape first second : Text}

/-- They are presentable if everything that is read for them is. -/
theorem keeps_inTurn (hread : ∀ t v, read t = .ok v → v.Presentable) :
    (commandGrammar name shape (inTurn read first second)).Keeps
      fun state : Value × Value => state.1.Presentable ∧ state.2.Presentable := by
  constructor
  · intro o ho
    rw [List.mem_singleton.mp ho]
    trivial
  · intro p hp
    rcases List.mem_pair.mp hp with rfl | rfl
    · exact keeps_single hread (fun _ => Value.presentable_list)
        fun v state hv hstate => ⟨hv, hstate.2⟩
    · exact keeps_single hread (fun _ => Value.presentable_list)
        fun v state hv hstate => ⟨hstate.1, hv⟩

theorem read_inTurn {a b : Text} {v w : Value} (ha : IsOperand a)
    (hb : IsOperand b) (hv : read a = .ok v) (hw : read b = .ok w) :
    (commandGrammar name shape (inTurn read first second)).read (.null, .null)
      [a, b] = .ok ((v, w), []) := by
  have hargs : ∀ arg ∈ [a, b], IsOperand arg := by simp [ha, hb]
  have hstoreFirst : single read (fun x (state : Value × Value) => (x, state.2))
      [a] (.null, .null) = .ok (v, .null) := single_of_read hv
  have hstoreSecond : single read (fun x (state : Value × Value) => (state.1, x))
      [b] (v, .null) = .ok (v, w) := single_of_read hw
  apply Grammar.read_of_fill (List.cons_ne_nil a _) hargs
  rw [commandGrammar, inTurn, Grammar.fill_one rfl ha hstoreFirst,
    Grammar.fill_one rfl hb hstoreSecond]
  rfl

end InTurn

theorem presentable_of_request {command : Command} {args leftOver : List Text}
    {r : Request} (h : request command args = .ok (r, leftOver)) :
    r.Presentable := by
  have hnull := Value.presentable_null
  cases command with
  | format =>
      obtain ⟨⟨state, rest⟩, hread, heq⟩ := map_eq_ok_iff.mp h
      obtain ⟨rfl, -⟩ := Prod.mk.inj heq
      rw [format_eq] at hread
      exact Grammar.keeps_read (keeps_inTurn fun _ _ => presentable_of_readInteger)
        ⟨hnull, hnull⟩ hread
  | parse =>
      obtain ⟨⟨state, rest⟩, -, heq⟩ := map_eq_ok_iff.mp h
      obtain ⟨rfl, -⟩ := Prod.mk.inj heq
      trivial
  | pair op =>
      obtain ⟨⟨state, rest⟩, hread, heq⟩ := map_eq_ok_iff.mp h
      obtain ⟨rfl, -⟩ := Prod.mk.inj heq
      rw [pair_eq] at hread
      exact Grammar.keeps_read (keeps_inTurn fun _ _ => presentable_of_readText)
        ⟨hnull, hnull⟩ hread

/-- A command line makes a request when the tool finds a command in it, the
command has use for its arguments, and nothing is left over. -/
theorem read_eq_ok_iff {args : List Text} {how : Presentation} {r : Request} :
    read args = .ok (how, r) ↔
      ∃ name rest command,
        tool.read ⟨false, false, []⟩ args =
          .ok (⟨how.json, how.verbose, name :: rest⟩, []) ∧
        Command.named? name = some command ∧ request command rest = .ok (r, []) := by
  constructor
  · intro h
    obtain ⟨⟨⟨json, verbose, words⟩, before⟩, htool, h⟩ := bind_eq_ok_iff.mp h
    dsimp only at h
    split at h
    next => exact absurd h throw_ne_ok
    next name rest =>
      split at h
      next => exact absurd h throw_ne_ok
      next command hcommand =>
        obtain ⟨⟨r', after⟩, hrequest, h⟩ := bind_eq_ok_iff.mp h
        dsimp only at h
        split at h
        next hempty =>
          obtain ⟨rfl, rfl⟩ := Prod.mk.inj (Except.ok.inj h)
          obtain ⟨rfl, rfl⟩ := List.append_eq_nil_iff.mp (List.isEmpty_iff.mp hempty)
          exact ⟨name, rest, command, htool, hcommand, hrequest⟩
        next => exact absurd h throw_ne_ok
  · rintro ⟨name, rest, command, htool, hcommand, hrequest⟩
    simp only [read, htool, hcommand, hrequest, bind, Except.bind]
    rfl

/-- The values that any command line makes a request with are presentable. -/
theorem presentable_of_read {args : List Text} {how : Presentation} {r : Request}
    (h : read args = .ok (how, r)) : r.Presentable := by
  obtain ⟨_, _, _, -, -, hrequest⟩ := read_eq_ok_iff.mp h
  exact presentable_of_request hrequest

/-! ## Arguments without a dash in front -/

theorem tool_read_of_isOperand {args : List Text} (hne : args ≠ [])
    (hargs : ∀ arg ∈ args, IsOperand arg) :
    tool.read ⟨false, false, []⟩ args = .ok (⟨false, false, args⟩, []) := by
  apply Grammar.read_of_fill hne hargs
  exact Grammar.fill_all Arity.noConfusion hne hargs rfl

theorem isOperand_name (command : Command) : IsOperand command.name := by
  cases command with
  | format => decide
  | parse => decide
  | pair op => cases op <;> decide

theorem named?_name (command : Command) :
    Command.named? command.name = some command := by
  cases command with
  | format => decide
  | parse => decide
  | pair op => cases op <;> decide

/-- The name of a command and arguments for it make the request that the
arguments alone make. -/
theorem read_of_request {command : Command} {args : List Text} {r : Request}
    (hargs : ∀ arg ∈ args, IsOperand arg)
    (h : request command args = .ok (r, [])) :
    read (command.name :: args) = .ok (⟨false, false⟩, r) := by
  have htool := tool_read_of_isOperand (List.cons_ne_nil command.name args)
    (List.forall_mem_cons.mpr ⟨isOperand_name command, hargs⟩)
  exact read_eq_ok_iff.mpr ⟨command.name, args, command, htool, named?_name command, h⟩

theorem read_format {first second : Text} {m n : Int} (hfirst : IsOperand first)
    (hsecond : IsOperand second) (hm : Numeral.typedInt? first = some m)
    (hn : Numeral.typedInt? second = some n) :
    read ["format", first, second] =
      .ok (⟨false, false⟩, .format (.int m) (.int n)) := by
  have hreadM : readInteger first = .ok (.int m) := by rw [readInteger, hm]
  have hreadN : readInteger second = .ok (.int n) := by rw [readInteger, hn]
  have hrequest : request .format [first, second] =
      .ok (.format (.int m) (.int n), []) := by
    rw [request, format_eq, read_inTurn hfirst hsecond hreadM hreadN]
    rfl
  exact read_of_request (by simp [hfirst, hsecond]) hrequest

theorem read_pair {op : PairOp} {a b : Text} (ha : IsOperand a) (hb : IsOperand b) :
    read [Summary.opName op, a, b] =
      .ok (⟨false, false⟩, .pair op (.text a) (.text b)) := by
  have hrequest : request (.pair op) [a, b] =
      .ok (.pair op (.text a) (.text b), []) := by
    rw [request, pair_eq, read_inTurn ha hb rfl rfl]
    rfl
  exact read_of_request (by simp [ha, hb]) hrequest

theorem read_parse {texts : List Text} (hne : texts ≠ [])
    (htexts : ∀ t ∈ texts, IsOperand t) :
    read ("parse" :: texts) = .ok (⟨false, false⟩, .parse texts) := by
  have hstate : parse.read [] texts = .ok (texts, []) := by
    apply Grammar.read_of_fill hne htexts
    exact Grammar.fill_all Arity.noConfusion hne htexts rfl
  have hrequest : request .parse texts = .ok (.parse texts, []) := by
    rw [request, hstate]
    rfl
  exact read_of_request htexts hrequest

/-! ## Flags in front of the command -/

def jsonOption : Opt Setting :=
  ⟨["--json"], .flag fun state => { state with json := true }⟩

def verboseOption : Opt Setting :=
  ⟨["-v", "--verbose"], .flag fun state => { state with verbose := true }⟩

theorem tool_read_json (state : Setting) (args : List Text) :
    tool.read state ("--json" :: args) =
      tool.read { state with json := true } args := by
  have hne : ("--json" : Text) ≠ [0x2D, 0x2D] := by decide
  have hmark : tool.mark "--json" = .ok (.option "--json" jsonOption none) := rfl
  exact Grammar.read_flag hne hmark rfl state args

theorem tool_read_verbose (state : Setting) (args : List Text) :
    tool.read state ("-v" :: args) =
      tool.read { state with verbose := true } args := by
  have hne : ("-v" : Text) ≠ [0x2D, 0x2D] := by decide
  have hmark : tool.mark "-v" = .ok (.option "-v" verboseOption none) := rfl
  exact Grammar.read_flag hne hmark rfl state args

/-- The flags of a presentation. -/
def flags (how : Presentation) : List Text :=
  (if how.json then ["--json"] else []) ++ (if how.verbose then ["-v"] else [])

theorem tool_read_flags (how : Presentation) (words args : List Text) :
    tool.read ⟨false, false, words⟩ (flags how ++ args) =
      tool.read ⟨how.json, how.verbose, words⟩ args := by
  obtain ⟨json, verbose⟩ := how
  cases json <;> cases verbose <;>
    simp [flags, tool_read_json, tool_read_verbose]

theorem tool_read_command {name : Text} {rest : List Text} {state : Setting}
    {marked : List (Text × Mark Setting)} (hname : IsOperand name)
    (hmark : tool.markAll rest = .ok marked) :
    tool.read state (name :: rest) =
      .ok ({ state with command := name :: rest }, []) :=
  Grammar.read_rest rfl rfl hname hmark rfl

/-- Flags in front of a command line change how the results of its request are
presented, and nothing about the request. -/
theorem read_flags {name : Text} {rest : List Text} {plain : Presentation}
    {r : Request} (hname : IsOperand name) (h : read (name :: rest) = .ok (plain, r))
    (how : Presentation) : read (flags how ++ name :: rest) = .ok (how, r) := by
  obtain ⟨name', rest', command, htool, hcommand, hrequest⟩ := read_eq_ok_iff.mp h
  obtain ⟨marked, hmark⟩ := Grammar.exists_markAll_of_read hname htool
  rw [tool_read_command hname hmark] at htool
  obtain ⟨rfl, rfl⟩ : name = name' ∧ rest = rest' := by
    simpa using congrArg (fun state => state.1.command) (Except.ok.inj htool)
  have hflagged := tool_read_flags how [] (name :: rest)
  rw [tool_read_command hname hmark] at hflagged
  exact read_eq_ok_iff.mpr ⟨name, rest, command, hflagged, hcommand, hrequest⟩

/-! ## Two dashes in the place of a value -/

/-- Two dashes that stand where the second value is expected leave it empty. -/
theorem read_pair_dashes (op : PairOp) (a : Text) :
    read [Summary.opName op, "--", a, "--"] =
      .ok (⟨false, false⟩, .pair op (.text a) (.list [])) := by
  have hmark : (pair op).markAll ["--", a, "--"] =
      .ok [("--", .dashes), (a, .word), ("--", .word)] := rfl
  have hfill : (pair op).fill (pair op).positionals (.null, .null)
      [("--", .dashes), (a, .word), ("--", .word)] =
        .ok ([], (.text a, .list []), []) := rfl
  have hread := Grammar.read_of_fill_marks (.inr rfl) hmark hfill
  have htool : tool.read ⟨false, false, []⟩ [Summary.opName op, "--", a, "--"] =
      .ok (⟨false, false, [Summary.opName op, "--", a, "--"]⟩, []) :=
    tool_read_command (isOperand_name (.pair op)) rfl
  refine read_eq_ok_iff.mpr ⟨_, _, .pair op, htool, named?_name (.pair op), ?_⟩
  rw [request, hread]
  rfl

end Arguments

end SourceSpans
