/-!
# Sorting by runs

A list is put in order by taking runs off its front, which rise already or
fall all the way, and by merging each run with its neighbours; equal elements
keep their places.  Elements may have no order, and the sort then fails with
the first two that meet.  Which elements meet, and when, is therefore part of
what the sort answers.
-/

namespace SourceSpans

namespace RunSort

/-- A comparison says whether the first element stands before the second one,
or why the two have no order. -/
abbrev Comparison (ε α : Type) := α → α → Except ε Bool

variable {ε α : Type} (before : Comparison ε α)

/-! ## Runs -/

/-- What continues a rising run after its last element, and what follows. -/
def rise (last : α) : List α → Except ε (List α × List α)
  | [] => .ok ([], [])
  | x :: rest => do
      if ← before x last then
        return ([], x :: rest)
      else
        let (run, after) ← rise x rest
        return (x :: run, after)

/-- A falling run turned round, and what follows.  The elements of the run
above its last one are given in rising order. -/
def fall (last : α) (above : List α) : List α → Except ε (List α × List α)
  | [] => .ok (last :: above, [])
  | x :: rest => do
      if ← before x last then
        fall x (last :: above) rest
      else
        return (last :: above, x :: rest)

/-- The run at the front of a list, in rising order, and what follows it.  The
first two elements say whether it rises or falls; equal ones do not fall. -/
def frontRun : List α → Except ε (List α × List α)
  | x :: y :: rest => do
      if ← before y x then
        fall before y [x] rest
      else
        let (run, after) ← rise before y rest
        return (x :: y :: run, after)
  | short => .ok (short, [])

/-- Put an element into a run, behind its equals.  It meets the middle of the
run first, and then the middle of the half in which its place is. -/
def insert (x : α) (run : List α) : Except ε (List α) :=
  match _h : run.drop (run.length / 2) with
  | [] => .ok [x]
  | y :: upper => do
      if ← before x y then
        let lower ← insert x (run.take (run.length / 2))
        return lower ++ y :: upper
      else
        let upper ← insert x upper
        return run.take (run.length / 2) ++ y :: upper
termination_by run.length
decreasing_by
  all_goals
    have := congrArg List.length _h
    simp at this ⊢
    omega

/-- The least length of a run in a list: the whole list up to 63 elements, and
of a longer one the number between 32 and 64 that halving leads to, rounded
up. -/
def leastLength (total : Nat) : Nat :=
  let halvings := total.log2 - 5
  (total + Nat.pow 2 halvings - 1) / Nat.pow 2 halvings

/-- The run at the front of a list and what follows it; a run below the least
length takes in the elements that follow, one by one. -/
def longRun (least : Nat) (elements : List α) :
    Except ε (List α × List α) := do
  let (run, after) ← frontRun before elements
  let missing := least - run.length
  let run ← (after.take missing).foldlM (fun run x => insert before x run) run
  return (run, after.drop missing)

/-! ## Merging -/

/-- Two runs as one; of equal elements those of the first run come first. -/
def merge : List α → List α → Except ε (List α)
  | [], ys => .ok ys
  | xs, [] => .ok xs
  | x :: xs, y :: ys => do
      if ← before y x then
        let merged ← merge (x :: xs) ys
        return y :: merged
      else
        let merged ← merge xs (y :: ys)
        return x :: merged
termination_by xs ys => xs.length + ys.length

/-- A run that waits to be merged: its elements, how many elements stand in
front of it, and the level on which it meets the next run. -/
structure Pending (α : Type) where
  run : List α
  start : Nat
  level : Nat

/-- How many times a whole is halved until two of its points are in different
parts. -/
def level (whole a b : Nat) : Nat :=
  ((List.range (whole.log2 + 2)).find? fun k =>
    a * Nat.pow 2 k / whole != b * Nat.pow 2 k / whole).getD 0

/-- Merge the last two of the pending runs, which are given from the last one
on, while they meet on a deeper level than the given one.  The last run that
remains meets the next one on that level. -/
def mergeAbove (level : Nat) :
    List (Pending α) → Except ε (List (Pending α))
  | [] => .ok []
  | [last] => .ok [{ last with level }]
  | last :: previous :: rest =>
      if level < previous.level then do
        let run ← merge before previous.run last.run
        mergeAbove level ({ previous with run } :: rest)
      else .ok ({ last with level } :: previous :: rest)
termination_by pending => pending.length

/-- Let a run follow the pending ones in a list of the given length.  The
level on which it meets the last of them is that of the middles of the two;
twice their places are whole numbers. -/
def push (total : Nat) (run : List α) :
    List (Pending α) → Except ε (List (Pending α))
  | [] => .ok [{ run, start := 0, level := 0 }]
  | last :: rest => do
      let start := last.start + last.run.length
      let level :=
        level (2 * total) (last.start + start) (2 * start + run.length)
      let pending ← mergeAbove before level (last :: rest)
      return { run, start, level := 0 } :: pending

/-- Merge all pending runs, which are given from the last one on: the last two
first, unless the run before these is shorter than the last. -/
def mergeAll : List (Pending α) → Except ε (List α)
  | [] => .ok []
  | [only] => .ok only.run
  | [last, first] => merge before first.run last.run
  | last :: middle :: first :: rest => do
      if first.run.length < last.run.length then
        let run ← merge before first.run middle.run
        mergeAll (last :: { first with run } :: rest)
      else
        let run ← merge before middle.run last.run
        mergeAll ({ middle with run } :: first :: rest)
termination_by pending => pending.length

/-! ## Sorting -/

/-- Sort what is left of a list of the given length behind pending runs, where
at most the given number of runs is left. -/
def sortBehind (total : Nat) :
    Nat → List (Pending α) → List α → Except ε (List α)
  | _, pending, [] => mergeAll before pending
  | 0, pending, _ => mergeAll before pending
  | runs + 1, pending, x :: rest => do
      let (run, after) ← longRun before (leastLength total) (x :: rest)
      let pending ← push before total run pending
      sortBehind total runs pending after

/-- A list in order, or the failure of the first two elements to meet that
have none. -/
def sort (elements : List α) : Except ε (List α) :=
  sortBehind before elements.length elements.length [] elements

end RunSort

end SourceSpans
