import SourceSpans.Random.Twister

/-!
# Random walks over spans

A walk is a list of spans in which the cases of interest are frequent: points,
spans that touch the one before, and spans that overlap it.  Each step rolls
once and then draws the numbers it needs.  A fresh span stays within the reach
of the walk; the others are short and may lead beyond it.
-/

namespace SourceSpans

namespace Walk

/-- A fraction of one, given as a numerator over `2 ^ 53`, that is less than
some hundredths. -/
def Below (hundredths roll : Nat) : Prop := 100 * roll < hundredths * Nat.pow 2 53

instance (hundredths roll : Nat) : Decidable (Below hundredths roll) :=
  inferInstanceAs (Decidable (_ < _))

/-- How a step goes on from the span before it. -/
inductive Move where
  /-- Start where the span before ends. -/
  | touching (before : Span)
  /-- Start inside the span before. -/
  | overlapping (before : Span)
  /-- Start anywhere within reach, with length zero. -/
  | point
  /-- Start and end anywhere within reach. -/
  | fresh

def move (before : Option Span) (roll : Nat) : Move :=
  match before with
  | some s =>
      if Below 15 roll then .touching s
      else if s.length ≠ 0 ∧ Below 30 roll then .overlapping s
      else if Below 45 roll then .point
      else .fresh
  | none => if Below 45 roll then .point else .fresh

/-- The longest span that is placed by its neighbour. -/
def longestStep : Int := 20

/-- A checked span and the source after it. -/
def place (start length : Int) (source : Twister) :
    Except Fault (Span × Twister) :=
  ((Span.ofInts start length).mapError Fault.ofNegative).map (·, source)

def take (reach : Int) (source : Twister) :
    Move → Except Fault (Span × Twister)
  | .touching s => do
      let (length, source) ← source.integer 0 longestStep
      place s.stop length source
  | .overlapping s => do
      let (start, source) ← source.integer s.start ((s.stop : Int) - 1)
      let (length, source) ← source.integer 1 longestStep
      place start length source
  | .point => do
      let (start, source) ← source.integer 0 reach
      place start 0 source
  | .fresh => do
      let (start, source) ← source.integer 0 reach
      let (length, source) ← source.integer 0 (reach - start)
      place start length source

def step (reach : Int) (before : Option Span) (source : Twister) :
    Except Fault (Span × Twister) :=
  let (roll, source) := source.fraction
  take reach source (move before roll)

/-- A number of steps from the span before them. -/
def steps (reach : Int) :
    Nat → Option Span → Twister → Except Fault (List Span)
  | 0, _, _ => .ok []
  | count + 1, before, source =>
      match step reach before source with
      | .error e => .error e
      | .ok (s, source) =>
          (steps reach count (some s) source).map (s :: ·)

/-- The walk of a seed with the given number of spans; a negative number asks
for none. -/
def spans (seed count reach : Int) : Except Fault (List Span) :=
  steps reach count.toNat none (Twister.ofSeed seed)

def defaultReach : Int := 10000

end Walk

end SourceSpans
