import SourceSpans.Text.Basic

/-!
# UTF-8

Reading bytes as text stops at the first byte that no well-formed sequence can
have at its place.  What is reported is the sequence begun there: its first
byte, its position, and how many of its bytes were still in order.
-/

namespace SourceSpans

namespace Utf8

inductive Reason where
  | badStart
  | badContinuation
  | cutShort
  deriving DecidableEq

def Reason.text : Reason → Text
  | .badStart => "invalid start byte"
  | .badContinuation => "invalid continuation byte"
  | .cutShort => "unexpected end of data"

/-- The first malformed sequence of a byte string; `length` counts the bytes
that are blamed. -/
structure Malformed where
  reason : Reason
  first : UInt8
  position : Nat
  length : Nat
  deriving DecidableEq

/-- A sequence whose first byte has been read.  The next byte must lie between
`low` and `high`, and `owed` bytes are still to come. -/
structure Pending where
  first : UInt8
  seen : Nat
  owed : Nat
  low : Nat
  high : Nat
  bits : Nat

/-- A sequence begun by a byte above the ASCII range.  The bounds on its second
byte exclude longer spellings than needed, surrogates and numbers that are no
code points. -/
def Pending.begin? (b : UInt8) : Option Pending :=
  let n := b.toNat
  if 0xC2 ≤ n ∧ n ≤ 0xDF then some ⟨b, 1, 1, 0x80, 0xBF, n - 0xC0⟩
  else if 0xE0 ≤ n ∧ n ≤ 0xEF then
    some ⟨b, 1, 2, if n = 0xE0 then 0xA0 else 0x80,
      if n = 0xED then 0x9F else 0xBF, n - 0xE0⟩
  else if 0xF0 ≤ n ∧ n ≤ 0xF4 then
    some ⟨b, 1, 3, if n = 0xF0 then 0x90 else 0x80,
      if n = 0xF4 then 0x8F else 0xBF, n - 0xF0⟩
  else none

/-- The bits of a sequence with one more byte. -/
def Pending.bitsWith (p : Pending) (b : UInt8) : Nat :=
  p.bits * 64 + (b.toNat - 0x80)

/-- The sequence with one more byte, of which more are to come. -/
def Pending.push (p : Pending) (b : UInt8) : Pending :=
  ⟨p.first, p.seen + 1, p.owed - 1, 0x80, 0xBF, p.bitsWith b⟩

/-- Read on from a position, perhaps inside a sequence. -/
def decodeFrom (position : Nat) :
    Option Pending → List UInt8 → Except Malformed Text
  | none, [] => .ok []
  | some p, [] => .error ⟨.cutShort, p.first, position - p.seen, p.seen⟩
  | none, b :: rest =>
      if b.toNat < 0x80 then
        (decodeFrom (position + 1) none rest).map
          (CodePoint.ofNat b.toNat :: ·)
      else
        match Pending.begin? b with
        | none => .error ⟨.badStart, b, position, 1⟩
        | some p => decodeFrom (position + 1) (some p) rest
  | some p, b :: rest =>
      if p.low ≤ b.toNat ∧ b.toNat ≤ p.high then
        if p.owed = 1 then
          (decodeFrom (position + 1) none rest).map
            (CodePoint.ofNat (p.bitsWith b) :: ·)
        else decodeFrom (position + 1) (some (p.push b)) rest
      else .error ⟨.badContinuation, p.first, position - p.seen, p.seen⟩

def decode (bytes : List UInt8) : Except Malformed Text :=
  decodeFrom 0 none bytes

def continuation (n : Nat) : UInt8 := UInt8.ofNat (0x80 + n % 64)

def encodeCodePoint (c : CodePoint) : List UInt8 :=
  let n := c.val
  if n < 0x80 then [UInt8.ofNat n]
  else if n < 0x800 then [UInt8.ofNat (0xC0 + n / 64), continuation n]
  else if n < 0x10000 then
    [UInt8.ofNat (0xE0 + n / 4096), continuation (n / 64), continuation n]
  else
    [UInt8.ofNat (0xF0 + n / 262144), continuation (n / 4096),
      continuation (n / 64), continuation n]

def encode (t : Text) : List UInt8 := t.flatMap encodeCodePoint

end Utf8

end SourceSpans
