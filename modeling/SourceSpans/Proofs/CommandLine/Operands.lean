import SourceSpans.CommandLine
import SourceSpans.Proofs.Success
import Mathlib.Data.List.Basic

/-!
# Flags and arguments without a dash

A command line of arguments that do not begin with a dash only fills the positional
arguments in order, and they are stored as they stand.  An option in front that sets a
flag changes the state for the arguments behind it and nothing else.
-/

namespace SourceSpans

namespace CommandLine

/-- The argument does not begin with a dash. -/
def IsOperand (arg : Text) : Prop := arg.head? ≠ some 0x2D

instance (arg : Text) : Decidable (IsOperand arg) :=
  inferInstanceAs (Decidable (arg.head? ≠ some 0x2D))

theorem IsOperand.ne_dashes {arg : Text} (h : IsOperand arg) :
    arg ≠ [0x2D, 0x2D] := by
  rintro rfl
  exact h rfl

theorem erase_dashes {args : List Text} (h : ∀ arg ∈ args, IsOperand arg) :
    args.erase [0x2D, 0x2D] = args := by
  apply List.erase_of_not_mem
  intro hmem
  exact (h _ hmem).ne_dashes rfl

/-! ## Counting words -/

section Count

variable {σ : Type}

/-- Arguments that are all words. -/
def wordsOf (args : List Text) : List (Text × Mark σ) := args.map (·, .word)

theorem map_fst_wordsOf (args : List Text) :
    (wordsOf args : List (Text × Mark σ)).map Prod.fst = args := by
  simp [wordsOf, Function.comp_def]

theorem map_snd_wordsOf (args : List Text) :
    (wordsOf args : List (Text × Mark σ)).map Prod.snd =
      List.replicate args.length .word := by
  simp [wordsOf, Function.comp_def]

theorem takeWhile_isDashes_words (n : Nat) :
    (List.replicate n (Mark.word : Mark σ)).takeWhile Mark.isDashes = [] := by
  cases n with
  | zero => rfl
  | succ n => rfl

theorem dropWhile_isDashes_words (n : Nat) :
    (List.replicate n (Mark.word : Mark σ)).dropWhile Mark.isDashes =
      List.replicate n .word := by
  cases n with
  | zero => rfl
  | succ n => rfl

theorem count?_one_words (n : Nat) :
    Arity.one.count? (List.replicate (n + 1) (Mark.word : Mark σ)) = some 1 := by
  rw [Arity.count?, dropWhile_isDashes_words, takeWhile_isDashes_words,
    List.replicate_succ]
  simp [Mark.isWord, Mark.isDashes]

theorem count?_words {arity : Arity} (harity : arity ≠ .one) (n : Nat) :
    arity.count? (List.replicate (n + 1) (Mark.word : Mark σ)) = some (n + 1) := by
  rw [Arity.count?, dropWhile_isDashes_words, takeWhile_isDashes_words,
    List.replicate_succ]
  cases arity with
  | one => exact absurd rfl harity
  | many => simp [Mark.isWord, Nat.add_comm]
  | rest => simp [Mark.isWord]

end Count

namespace Grammar

variable {σ : Type} {g : Grammar σ}

theorem mark_of_isOperand {arg : Text} (h : IsOperand arg) :
    g.mark arg = .ok .word := by
  cases arg with
  | nil => rfl
  | cons first others =>
      have hfirst : first ≠ 0x2D := fun heq => h (by rw [heq]; rfl)
      rw [mark, if_pos hfirst]

theorem markAll_of_isOperand {args : List Text} (h : ∀ arg ∈ args, IsOperand arg) :
    g.markAll args = .ok (wordsOf args) := by
  induction args with
  | nil => rfl
  | cons arg rest ih =>
      obtain ⟨harg, hrest⟩ := List.forall_mem_cons.mp h
      rw [markAll, if_neg harg.ne_dashes, mark_of_isOperand harg, ih hrest]
      rfl

/-! ## Filling positional arguments -/

theorem fill_one {p : Positional σ} {others : List (Positional σ)}
    {arg : Text} {rest : List Text} {state after : σ}
    (hp : p.arity = .one) (harg : IsOperand arg)
    (hstore : p.store [arg] state = .ok after) :
    g.fill (p :: others) state (wordsOf (arg :: rest)) =
      g.fill others after (wordsOf rest) := by
  have hvalues : Arity.one.values [arg] = [arg] :=
    erase_dashes (by simpa using harg)
  rw [fill, hp, map_snd_wordsOf, List.length_cons, count?_one_words]
  dsimp only
  rw [wordsOf, List.map_cons, List.take_succ_cons, List.take_zero,
    List.map_singleton, hvalues, hstore]
  rfl

theorem fill_all {p : Positional σ} {args : List Text} {state after : σ}
    (hp : p.arity ≠ .one) (hne : args ≠ []) (hargs : ∀ arg ∈ args, IsOperand arg)
    (hstore : p.store args state = .ok after) :
    g.fill [p] state (wordsOf args) = .ok ([], after, []) := by
  have hvalues : p.arity.values args = args := by
    cases hcase : p.arity with
    | one => exact absurd hcase hp
    | many => exact erase_dashes hargs
    | rest => rfl
  have hlength : args.length ≠ 0 := by simpa using hne
  obtain ⟨n, hn⟩ := Nat.exists_eq_succ_of_ne_zero hlength
  have hwords : (wordsOf args : List (Text × Mark σ)).length = n + 1 := by
    rw [wordsOf, List.length_map, hn]
  rw [fill, map_snd_wordsOf, hn, count?_words hp]
  dsimp only
  rw [← hwords, List.take_length, List.drop_length, map_fst_wordsOf, hvalues, hstore]
  rfl

/-! ## The whole line -/

/-- What a line sets that begins with a word, or with two dashes, when the
positional arguments use all of it. -/
theorem read_of_fill_marks {args : List Text} {arg : Text} {m : Mark σ}
    {marked : List (Text × Mark σ)} {initial state : σ}
    (hm : m.isWord ∨ m.isDashes) (hmark : g.markAll args = .ok ((arg, m) :: marked))
    (hfill : g.fill g.positionals initial ((arg, m) :: marked) = .ok ([], state, [])) :
    g.read initial args = .ok (state, []) := by
  have huse : g.useAll ⟨initial, g.positionals, []⟩ ((arg, m) :: marked) =
      .ok ⟨state, [], []⟩ := by
    rw [useAll]
    · simp [hfill, useAll]
    all_goals
      intros
      subst m
      simp [Mark.isWord, Mark.isDashes] at hm
  simp only [read, hmark, huse, bind, Except.bind]
  rfl

/-- What words are stored to when the positional arguments use all of them. -/
theorem read_of_fill {args : List Text} {initial state : σ} (hne : args ≠ [])
    (hargs : ∀ arg ∈ args, IsOperand arg)
    (hfill : g.fill g.positionals initial (wordsOf args) = .ok ([], state, [])) :
    g.read initial args = .ok (state, []) := by
  cases args with
  | nil => exact absurd rfl hne
  | cons arg rest =>
      exact read_of_fill_marks (.inl rfl) (markAll_of_isOperand hargs) hfill

end Grammar

end CommandLine

/-! ## Flags in front of a command -/

open Success

namespace CommandLine.Grammar

variable {σ : Type} {g : Grammar σ}

theorem map_fst_markAll {args : List Text} {marked : List (Text × Mark σ)}
    (h : g.markAll args = .ok marked) : marked.map Prod.fst = args := by
  induction args generalizing marked with
  | nil =>
      obtain rfl := Except.ok.inj h
      rfl
  | cons arg rest ih =>
      rw [markAll] at h
      split at h
      next =>
        obtain rfl := Except.ok.inj h
        simp [Function.comp_def]
      next =>
        obtain ⟨m, -, h⟩ := bind_eq_ok_iff.mp h
        obtain ⟨others, hothers, h⟩ := bind_eq_ok_iff.mp h
        obtain rfl := Except.ok.inj h
        rw [List.map_cons, ih hothers]

/-- An option that sets a flag changes the state for what follows it. -/
theorem read_flag {flag : Text} {o : Opt σ} {set : σ → σ}
    (hne : flag ≠ [0x2D, 0x2D]) (hmark : g.mark flag = .ok (.option flag o none))
    (ho : o.effect = .flag set) (state : σ) (args : List Text) :
    g.read state (flag :: args) = g.read (set state) args := by
  have htake : ∀ ahead, g.takeOption flag o none ahead state = .ok (set state, 0) := by
    intro ahead
    simp [takeOption, bundle, valuesFor, Opt.takesValue, ho, performAll, perform,
      bind, Except.bind, pure, Except.pure]
  have huse : ∀ marked, g.useAll ⟨state, g.positionals, []⟩
      ((flag, .option flag o none) :: marked) =
        g.useAll ⟨set state, g.positionals, []⟩ marked := by
    intro marked
    rw [useAll, htake]
    rfl
  rw [read, read, markAll, if_neg hne, hmark]
  cases g.markAll args with
  | error e => rfl
  | ok marked => simp only [bind, Except.bind, pure, Except.pure, huse]

/-- A positional argument that takes the rest takes everything from a word on. -/
theorem read_rest {p : Positional σ} {name : Text} {rest : List Text}
    {marked : List (Text × Mark σ)} {state after : σ} (hg : g.positionals = [p])
    (hp : p.arity = .rest) (hname : IsOperand name)
    (hmark : g.markAll rest = .ok marked)
    (hstore : p.store (name :: rest) state = .ok after) :
    g.read state (name :: rest) = .ok (after, []) := by
  have hrest := map_fst_markAll hmark
  have hfill : g.fill [p] state ((name, .word) :: marked) = .ok ([], after, []) := by
    rw [fill, hp, List.map_cons]
    simp [Arity.count?, Mark.isDashes, Mark.isWord, Arity.values, fill, hrest, hstore]
  have hmarkAll : g.markAll (name :: rest) = .ok ((name, .word) :: marked) := by
    rw [markAll, if_neg hname.ne_dashes, mark_of_isOperand hname, hmark]
    rfl
  rw [← hg] at hfill
  exact read_of_fill_marks (.inl rfl) hmarkAll hfill

theorem exists_markAll_of_read {name : Text} {rest : List Text} {state : σ}
    {x : σ × List Text} (hname : IsOperand name)
    (h : g.read state (name :: rest) = .ok x) :
    ∃ marked, g.markAll rest = .ok marked := by
  obtain ⟨marked, hmarked, -⟩ := bind_eq_ok_iff.mp h
  rw [markAll, if_neg hname.ne_dashes] at hmarked
  obtain ⟨m, -, hmarked⟩ := bind_eq_ok_iff.mp hmarked
  obtain ⟨others, hothers, -⟩ := bind_eq_ok_iff.mp hmarked
  exact ⟨others, hothers⟩

end CommandLine.Grammar

end SourceSpans
