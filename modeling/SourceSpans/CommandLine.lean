import SourceSpans.Fault
import SourceSpans.Numeral

/-!
# Command lines

A command line is a list of arguments: options, which are known by name, and positional
arguments, which are known by their order.  Every argument is judged by itself before
any is used.  They are used from left to right, and an option is carried out at once,
so the first one that asks for help or is wrong decides.

On two points the rules for such lines have changed over the years, and the older
ones hold here: behind a short flag only short options may be attached, where newer
readers carry out the flag and leave over the rest; and two dashes attached to an
option are no value, where newer readers take them as they are.
-/

namespace SourceSpans

/-! ## Grammars -/

namespace CommandLine

/-- How the values given to an argument change the state of the command, or
what is wrong with them. -/
abbrev Store (σ : Type) := List Text → σ → Except Text σ

/-- How many arguments a positional argument takes. -/
inductive Arity where
  | one
  /-- One or more. -/
  | many
  /-- One and all that follow, options included. -/
  | rest
  deriving DecidableEq

structure Positional (σ : Type) where
  label : Text
  arity : Arity
  store : Store σ

inductive Effect (σ : Type) where
  /-- Show the help text and end. -/
  | help
  | flag (set : σ → σ)
  /-- Take one value. -/
  | value (store : Store σ)

structure Opt (σ : Type) where
  names : List Text
  effect : Effect σ

/-- The arguments of one command and what is said about them. -/
structure Grammar (σ : Type) where
  program : Text
  usage : Text
  help : Text
  options : List (Opt σ)
  positionals : List (Positional σ)

/-- Why a command does not run. -/
inductive Stop where
  | help (text : Text)
  | misuse (text : Text)

/-! ### Storing values -/

/-- Accept one value.  Two dashes in the place of a value give none, and then
an empty list is stored. -/
def single {σ : Type} (read : Text → Except Text Value)
    (set : Value → σ → σ) : Store σ
  | [given], state => (read given).map fun v => set v state
  | others, state =>
      (others.mapM read).map fun vs => set (.list vs) state

def readText (given : Text) : Except Text Value := .ok (.text given)

def readInteger (given : Text) : Except Text Value :=
  match Numeral.typedInt? given with
  | some n => .ok (.int n)
  | none => .error ("invalid int value: " ++ Quoted.ofText given)

def texts {σ : Type} (set : List Text → σ → σ) : Store σ :=
  fun values state => .ok (set values state)

/-! ### Misuse -/

namespace Opt

variable {σ : Type}

/-- The name of an option in messages: all its names. -/
def label (o : Opt σ) : Text := Text.join "/" o.names

def help : Opt σ := ⟨["-h", "--help"], .help⟩

def takesValue (o : Opt σ) : Bool :=
  match o.effect with
  | .value _ => true
  | _ => false

end Opt

namespace Grammar

variable {σ : Type}

/-- The end of a command that was not used as it should be. -/
def misuse (g : Grammar σ) (detail : Text) : Stop :=
  .misuse (g.usage ++ g.program ++ ": error: " ++ detail.withNewline)

/-- The end of a command one of whose arguments is not accepted. -/
def refuse (g : Grammar σ) (label detail : Text) : Stop :=
  g.misuse ("argument " ++ label ++ ": " ++ detail)

/-- Every name of an option with its option, in order. -/
def names (g : Grammar σ) : List (Text × Opt σ) :=
  g.options.flatMap fun o => o.names.map (·, o)

def named? (g : Grammar σ) (name : Text) : Option (Opt σ) :=
  (g.names.find? fun entry => entry.1 == name).map Prod.snd

end Grammar

/-! ## Telling options from other arguments -/

/-- What an argument is. -/
inductive Mark (σ : Type) where
  | word
  /-- The two dashes after which no argument is an option. -/
  | dashes
  /-- An option by one of its names, with what is attached to it. -/
  | option (name : Text) (o : Opt σ) (attached : Option Text)
  | unknown

/-- A number with a minus in front, with or without a fraction, perhaps
followed by a newline. -/
def isNegativeNumber (arg : Text) : Bool :=
  let isDigit := fun c : CodePoint => c.digitValue?.isSome
  match arg with
  | [] => false
  | sign :: rest =>
      let body := if rest.getLast? = some 0x0A then rest.dropLast else rest
      let whole := body.takeWhile isDigit
      sign == 0x2D &&
        match body.dropWhile isDigit with
        | [] => !whole.isEmpty
        | point :: fraction =>
            point == 0x2E && !fraction.isEmpty && fraction.all isDigit

/-- What stands before the first equality sign, and what stands after it. -/
def splitEquals (arg : Text) : Text × Option Text :=
  let isEquals := fun c : CodePoint => c == 0x3D
  match arg.dropWhile fun c => !isEquals c with
  | [] => (arg, none)
  | _ :: attached => (arg.takeWhile fun c => !isEquals c, some attached)

def isLong (name : Text) : Bool := ([0x2D, 0x2D] : Text).isPrefixOf name

namespace Grammar

variable {σ : Type}

/-- The options that an argument may stand for without being the exact name of
one. -/
def candidates (g : Grammar σ) (arg : Text) :
    List (Text × Opt σ × Option Text) :=
  if isLong arg then
    let (begun, attached) := splitEquals arg
    g.names.filterMap fun (name, o) =>
      if begun.isPrefixOf name then some (name, o, attached) else none
  else
    g.names.filterMap fun (name, o) =>
      if name = arg.take 2 then some (name, o, some (arg.drop 2))
      else if arg.isPrefixOf name then some (name, o, none)
      else none

/-- The option whose exact name stands before an equality sign. -/
def assigned? (g : Grammar σ) (arg : Text) : Option (Mark σ) :=
  match splitEquals arg with
  | (_, none) => none
  | (name, some attached) =>
      (g.named? name).map fun o => .option name o (some attached)

/-- What an argument is that is no exact name and has a dash in front. -/
def markDashed (g : Grammar σ) (arg : Text) : Except Stop (Mark σ) :=
  match g.candidates arg with
  | [] =>
      if isNegativeNumber arg || arg.contains 0x20 then .ok .word
      else .ok .unknown
  | [(name, o, attached)] => .ok (.option name o attached)
  | several =>
      .error (g.misuse
        ("ambiguous option: " ++ arg ++ " could match " ++
          Text.join ", " (several.map Prod.fst)))

/-- What an argument is that stands before any two dashes. -/
def mark (g : Grammar σ) (arg : Text) : Except Stop (Mark σ) :=
  match arg with
  | [] => .ok .word
  | first :: others =>
      if first ≠ 0x2D then .ok .word
      else
        match g.named? arg with
        | some o => .ok (.option arg o none)
        | none =>
            if others.isEmpty then .ok .word
            else
              match g.assigned? arg with
              | some m => .ok m
              | none => g.markDashed arg

/-- Every argument with what it is; the first ambiguity counts. -/
def markAll (g : Grammar σ) : List Text → Except Stop (List (Text × Mark σ))
  | [] => .ok []
  | arg :: rest =>
      if arg = [0x2D, 0x2D] then
        .ok ((arg, .dashes) :: rest.map (·, .word))
      else do
        let m ← g.mark arg
        let others ← g.markAll rest
        return (arg, m) :: others

end Grammar

/-! ## Reading -/

/-! ### Groups of words -/

namespace Mark

variable {σ : Type}

def isWord : Mark σ → Bool
  | .word => true
  | _ => false

def isDashes : Mark σ → Bool
  | .dashes => true
  | _ => false

end Mark

/-- How many of the arguments ahead a positional argument takes.  Two dashes
may stand before its first word and among its words. -/
def Arity.count? {σ : Type} (arity : Arity) (marks : List (Mark σ)) :
    Option Nat :=
  let before := (marks.takeWhile Mark.isDashes).length
  match marks.dropWhile Mark.isDashes with
  | [] => none
  | first :: others =>
      if first.isWord then
        match arity with
        | .one => some (before + 1 + (others.takeWhile Mark.isDashes).length)
        | .many =>
            some (before + 1 +
              (others.takeWhile fun m => m.isWord || m.isDashes).length)
        | .rest => some marks.length
      else none

/-- The values of a group of arguments: the first two dashes among them are
none, unless the group takes everything. -/
def Arity.values (arity : Arity) (group : List Text) : List Text :=
  match arity with
  | .rest => group
  | _ => group.erase [0x2D, 0x2D]

/-! ### Options written together -/

/-- Options from one argument: some flags and a last option that may still need
a value. -/
structure Bundle (σ : Type) where
  flags : List (Opt σ)
  last : Opt σ
  attached : Option Text

namespace Grammar

variable {σ : Type}

def ignored (g : Grammar σ) (o : Opt σ) (attached : Text) : Stop :=
  g.refuse o.label ("ignored explicit argument " ++ Quoted.ofText attached)

/-- The options of an argument that has something attached to its first one.
What is attached to a short flag is further short options. -/
def unbundle (g : Grammar σ) (name : Text) (o : Opt σ) :
    Text → Except Stop (Bundle σ)
  | [] =>
      if o.takesValue then .ok ⟨[], o, some []⟩ else .error (g.ignored o [])
  | c :: rest =>
      if o.takesValue then .ok ⟨[], o, some (c :: rest)⟩
      else if isLong name then .error (g.ignored o (c :: rest))
      else
        match g.named? [0x2D, c] with
        | none => .error (g.ignored o (c :: rest))
        | some next =>
            if rest.isEmpty then .ok ⟨[o], next, none⟩
            else
              (g.unbundle [0x2D, c] next rest).map fun b =>
                { b with flags := o :: b.flags }

def bundle (g : Grammar σ) (name : Text) (o : Opt σ) :
    Option Text → Except Stop (Bundle σ)
  | none => .ok ⟨[], o, none⟩
  | some attached => g.unbundle name o attached

/-- Carry out an option that has been given its values. -/
def perform (g : Grammar σ) (o : Opt σ) (values : List Text) (state : σ) :
    Except Stop σ :=
  match o.effect with
  | .help => .error (.help g.help)
  | .flag set => .ok (set state)
  | .value store =>
      (store (Arity.one.values values) state).mapError (g.refuse o.label)

def performAll (g : Grammar σ) : List (Opt σ) → σ → Except Stop σ
  | [], state => .ok state
  | o :: rest, state => do
      let state ← g.perform o [] state
      g.performAll rest state

/-- The values of the last option of a bundle, with the number of following
arguments that are used up. -/
def valuesFor (g : Grammar σ) (b : Bundle σ) (ahead : List (Text × Mark σ)) :
    Except Stop (List Text × Nat) :=
  match b.attached with
  | some value => .ok ([value], 0)
  | none =>
      if b.last.takesValue then
        match ahead with
        | (value, .word) :: _ => .ok ([value], 1)
        | _ => .error (g.refuse b.last.label "expected one argument")
      else .ok ([], 0)

def takeOption (g : Grammar σ) (name : Text) (o : Opt σ)
    (attached : Option Text) (ahead : List (Text × Mark σ)) (state : σ) :
    Except Stop (σ × Nat) := do
  let b ← g.bundle name o attached
  let (values, used) ← g.valuesFor b ahead
  let state ← g.performAll b.flags state
  let state ← g.perform b.last values state
  return (state, used)

/-! ### The whole line -/

/-- The state of reading: what has been stored, the positional arguments that
are still open, and what is left over. -/
structure Progress (σ : Type) where
  state : σ
  pending : List (Positional σ)
  leftOver : List Text

/-- Fill as many open positional arguments as the arguments ahead allow. -/
def fill (g : Grammar σ) :
    List (Positional σ) → σ → List (Text × Mark σ) →
      Except Stop (List (Positional σ) × σ × List (Text × Mark σ))
  | [], state, ahead => .ok ([], state, ahead)
  | p :: rest, state, ahead =>
      match p.arity.count? (ahead.map Prod.snd) with
      | none => .ok (p :: rest, state, ahead)
      | some n =>
          let group := (ahead.take n).map Prod.fst
          match p.store (p.arity.values group) state with
          | .error e => .error (g.refuse p.label e)
          | .ok state => g.fill rest state (ahead.drop n)

def useAll (g : Grammar σ) (progress : Progress σ) :
    List (Text × Mark σ) → Except Stop (Progress σ)
  | [] => .ok progress
  | (arg, .unknown) :: ahead =>
      g.useAll { progress with leftOver := progress.leftOver ++ [arg] } ahead
  | (_, .option name o attached) :: ahead =>
      match g.takeOption name o attached ahead progress.state with
      | .error e => .error e
      | .ok (state, used) =>
          g.useAll { progress with state := state } (ahead.drop used)
  | (arg, mark) :: ahead =>
      match g.fill progress.pending progress.state ((arg, mark) :: ahead) with
      | .error e => .error e
      | .ok (pending, state, after) =>
          if after.length < ahead.length + 1 then
            g.useAll { progress with state := state, pending := pending } after
          else
            g.useAll { progress with leftOver := progress.leftOver ++ [arg] }
              ahead
termination_by ahead => ahead.length
decreasing_by
  · simp
  · simp only [List.length_drop, List.length_cons]
    omega
  · assumption
  · simp

/-- The state that a command line sets, and its arguments without use. -/
def read (g : Grammar σ) (initial : σ) (args : List Text) :
    Except Stop (σ × List Text) := do
  let marked ← g.markAll args
  let progress ← g.useAll ⟨initial, g.positionals, []⟩ marked
  if progress.pending.isEmpty then return (progress.state, progress.leftOver)
  else
    throw (g.misuse ("the following arguments are required: " ++
      Text.join ", " (progress.pending.map Positional.label)))

/-- The end of a command with arguments that nothing has use for. -/
def unrecognized (g : Grammar σ) (leftOver : List Text) : Stop :=
  g.misuse ("unrecognized arguments: " ++ Text.join " " leftOver)

/-- The state that a command line sets when every argument is of use. -/
def readFully (g : Grammar σ) (initial : σ) (args : List Text) :
    Except Stop σ := do
  let (state, leftOver) ← g.read initial args
  if leftOver.isEmpty then return state else throw (g.unrecognized leftOver)

end Grammar

end CommandLine

end SourceSpans
