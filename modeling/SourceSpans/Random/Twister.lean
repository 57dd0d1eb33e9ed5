import SourceSpans.Fault

/-!
# A twisted generalised feedback shift register

The random source keeps 624 words of 32 bits and renews all of them at once: each
becomes a combination of itself, its neighbour and a word 397 places ahead.  From its
words come fractions of 53 bits and integers in a range.
-/

namespace SourceSpans

/-- The number of words in the state of the random source. -/
abbrev Twister.size : Nat := 624

abbrev Twister.Words := Vector UInt32 Twister.size

/-- A random source: its words, and how many of them have been handed out. -/
structure Twister where
  words : Twister.Words
  used : Nat

namespace Twister

/-- A place among the words, counted around the end. -/
def place (i : Nat) : Fin size := ⟨i % size, Nat.mod_lt i (by decide)⟩

/-! ## Setting the state -/

/-- The state that a single word stands for; every key is mixed into the same
one. -/
def fromWord (seed : UInt32) : Words :=
  Nat.fold (size - 1)
    (fun i _ words =>
      let last := words[place i]
      words.set (place (i + 1))
        ((1812433253 : UInt32) * (last ^^^ (last >>> 30)) + UInt32.ofNat (i + 1)))
    (Vector.replicate size seed)

/-- How the word at a place is mixed with the word before it. -/
def stir (words : Words) (i : Nat) (factor : UInt32) : UInt32 :=
  let last := words[place (i + size - 1)]
  words[place i] ^^^ ((last ^^^ (last >>> 30)) * factor)

/-- Close a round: the last word is the one before the first. -/
def wrap (words : Words) : Words := words.set (place 0) words[place (size - 1)]

/-- Mix the words of a key into the words from place `i` on, beginning with
word `j` of the key, for a number of steps. -/
def mixKey (key : Array UInt32) :
    Nat → Nat → Nat → Words → Nat × Words
  | 0, i, _, words => (i, words)
  | steps + 1, i, j, words =>
      let k := (key[j]?).getD 0
      let words :=
        words.set (place i) (stir words i 1664525 + k + UInt32.ofNat j)
      let words := if i + 1 = size then wrap words else words
      mixKey key steps (if i + 1 = size then 1 else i + 1)
        (if key.size ≤ j + 1 then 0 else j + 1) words

/-- Mix the words among themselves from place `i` on for a number of steps. -/
def mixPlaces : Nat → Nat → Words → Words
  | 0, _, words => words
  | steps + 1, i, words =>
      let words :=
        words.set (place i) (stir words i 1566083941 - UInt32.ofNat i)
      let words := if i + 1 = size then wrap words else words
      mixPlaces steps (if i + 1 = size then 1 else i + 1) words

/-- The random source of a key. -/
def ofKey (key : Array UInt32) : Twister :=
  let (i, words) := mixKey key (max size key.size) 1 0 (fromWord 19650218)
  let words := mixPlaces (size - 1) i words
  { words := words.set (place 0) 0x80000000, used := size }

/-- The words of a number, least significant first; zero has one word. -/
def keyOfNat (n : Nat) : List UInt32 :=
  if n < Nat.pow 2 32 then [UInt32.ofNat n]
  else UInt32.ofNat n :: keyOfNat (n / Nat.pow 2 32)
termination_by n
decreasing_by
  rw [Nat.pow_eq] at *
  omega

/-- The random source of a seed; the sign of the seed does not matter. -/
def ofSeed (seed : Int) : Twister := ofKey (keyOfNat seed.natAbs).toArray

/-! ## Words -/

/-- The new word of a place. -/
def renewed (words : Words) (i : Nat) : UInt32 :=
  let y := (words[place i] &&& 0x80000000) |||
    (words[place (i + 1)] &&& 0x7FFFFFFF)
  let z := words[place (i + 397)] ^^^ (y >>> 1)
  if y &&& 1 = 0 then z else z ^^^ 0x9908B0DF

/-- All words renewed, one after another. -/
def renew (words : Words) : Words :=
  Nat.fold size (fun i _ words => words.set (place i) (renewed words i)) words

/-- The mixing of a word that is handed out. -/
def temper (y : UInt32) : UInt32 :=
  let y := y ^^^ (y >>> 11)
  let y := y ^^^ ((y <<< 7) &&& 0x9D2C5680)
  let y := y ^^^ ((y <<< 15) &&& 0xEFC60000)
  y ^^^ (y >>> 18)

def next (source : Twister) : UInt32 × Twister :=
  if source.used < size then
    (temper source.words[place source.used],
      { source with used := source.used + 1 })
  else
    let words := renew source.words
    (temper words[place 0], { words := words, used := 1 })

/-! ## Fractions and integers -/

/-- A fraction of one, as its numerator over `2 ^ 53`. -/
def fraction (source : Twister) : Nat × Twister :=
  let (high, source) := source.next
  let (low, source) := source.next
  ((high.toNat / 32) * Nat.pow 2 26 + low.toNat / 64, source)

/-- A number of the given count of bits.  Whole words come first, the least
significant one in front; of the last word the upper bits are taken. -/
def bits (count : Nat) (source : Twister) : Nat × Twister :=
  let (word, source) := source.next
  if 32 < count then
    let (rest, source) := bits (count - 32) source
    (word.toNat + rest * Nat.pow 2 32, source)
  else (word.toNat / Nat.pow 2 (32 - count), source)
termination_by count

/-- The number of binary digits of a number. -/
def bitLength (n : Nat) : Nat := if n = 0 then 0 else n.log2 + 1

/-- The number of sources with so many words that a draw can leave behind: the
words are any, and some of them have been handed out. -/
def sources (count : Nat) : Nat := Nat.pow UInt32.size count * count

/-- A number below `bound`, drawn with the bits of `bound` at most the given
number of times. -/
def below? (bound : Nat) : Nat → Twister → Option (Nat × Twister)
  | 0, _ => none
  | tries + 1, source =>
      let (n, source) := source.bits (bitLength bound)
      if n < bound then some (n, source) else below? bound tries source

/-- What is wrong with an empty range.  A range whose ends have no numerals
cannot even be named. -/
def emptyRange (low high : Int) : Fault :=
  match Fault.message? (.emptyRange low high) with
  | some _ => .emptyRange low high
  | none => .overlong

/-- An integer from `low` to `high`, both included. -/
def integer (low high : Int) (source : Twister) :
    Except Fault (Int × Twister) :=
  if high < low then .error (emptyRange low high)
  else
    match below? (high - low + 1).toNat (sources size + 1) source with
    | some (n, source) => .ok (low + n, source)
    | none => .error .exhausted

theorem below?_lt {bound tries n : Nat} {source after : Twister}
    (h : below? bound tries source = some (n, after)) : n < bound := by
  induction tries generalizing source with
  | zero => simp [below?] at h
  | succ tries ih =>
    simp only [below?] at h
    split at h
    next hlt =>
      simp only [Option.some.injEq, Prod.mk.injEq] at h
      omega
    next => exact ih h

/-- An integer that was drawn lies in the range it was asked for. -/
theorem integer_mem {low high x : Int} {source after : Twister}
    (h : integer low high source = .ok (x, after)) :
    low ≤ x ∧ x ≤ high := by
  unfold integer at h
  split at h
  next => simp at h
  next hle =>
    split at h
    next n after' hdraw =>
      have hn := below?_lt hdraw
      simp only [Except.ok.injEq, Prod.mk.injEq] at h
      omega
    next => simp at h

end Twister

end SourceSpans
