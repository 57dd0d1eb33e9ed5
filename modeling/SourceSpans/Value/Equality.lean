import SourceSpans.Fault
import SourceSpans.Numeral
import SourceSpans.Value.Basic

/-!
# Equality of values

Values are compared by what they stand for and not by how they are written: numbers as
exact quantities, and dictionaries without regard to the order of their entries.  A
floating-point numeral stands for the double that is nearest to it.
-/

namespace SourceSpans

/-! ## Quantities -/

/-- An exact number that a value may stand for. -/
inductive Quantity where
  /-- The quotient of an integer and a positive number. -/
  | finite (numerator : Int) (denominator : Nat)
  | infinite (negative : Bool)
  | notANumber

namespace Quantity

def ofInt (n : Int) : Quantity := .finite n 1

/-- Whether two quantities are the same number. -/
def same : Quantity → Quantity → Bool
  | .finite a b, .finite c d => a * d == c * b
  | .infinite s, .infinite t => s == t
  | _, _ => false

def less : Quantity → Quantity → Bool
  | .finite a b, .finite c d => decide (a * d < c * b)
  | .infinite s, .infinite t => s && !t
  | .infinite s, .finite _ _ => s
  | .finite _ _, .infinite s => !s
  | _, _ => false

/-- The nearest integer to a quotient; a half goes to the even neighbour. -/
def roundHalfEven (a b : Nat) : Nat :=
  let q := a / b
  let r := a % b
  if 2 * r < b then q
  else if 2 * r = b then (if q % 2 = 0 then q else q + 1)
  else q + 1

/-- The scale at which a quotient has 53 binary digits before the point; it
goes no lower than the least double. -/
def binaryScale (a b : Nat) : Int :=
  let guess : Int := (a.log2 : Int) - b.log2 - 52
  let low := if 0 ≤ guess then b * Nat.pow 2 guess.toNat else b
  let high := if 0 ≤ guess then a else a * Nat.pow 2 (-guess).toNat
  max (if high < low * Nat.pow 2 52 then guess - 1 else guess) (-1074)

/-- The double nearest to a quotient, as a quotient again. -/
def nearestDouble (a b : Nat) : Nat × Nat :=
  if a = 0 then (0, 1)
  else
    let scale := binaryScale a b
    if 0 ≤ scale then
      (roundHalfEven a (b * Nat.pow 2 scale.toNat) * Nat.pow 2 scale.toNat, 1)
    else
      (roundHalfEven (a * Nat.pow 2 (-scale).toNat) b, Nat.pow 2 (-scale).toNat)

/-- A signed run of digits, as it stands after the `e` of a numeral. -/
def exponent (t : Text) : Int :=
  match t with
  | [] => 0
  | sign :: rest =>
      if sign = '-' then -(Numeral.value rest : Int)
      else if sign = '+' then Numeral.value rest
      else Numeral.value (sign :: rest)

/-- The quantity of an unsigned numeral of digits, a point and an exponent. -/
def ofUnsigned (negative : Bool) (t : Text) : Quantity :=
  let isMark := fun c : CodePoint => c == 'e'
  let mantissa := t.takeWhile fun c => !isMark c
  let scale := exponent ((t.dropWhile fun c => !isMark c).drop 1)
  let whole := mantissa.takeWhile CodePoint.isDigit
  let fraction := (mantissa.dropWhile CodePoint.isDigit).drop 1
  let shift := scale - fraction.length
  let n := Numeral.value (whole ++ fraction)
  let (a, b) :=
    if 0 ≤ shift then nearestDouble (n * Nat.pow 10 shift.toNat) 1
    else nearestDouble n (Nat.pow 10 (-shift).toNat)
  .finite (if negative then -(a : Int) else a) b

def ofFloat (t : Text) : Quantity :=
  if t = "nan" then .notANumber
  else if t = "inf" then .infinite false
  else if t = "-inf" then .infinite true
  else
    match t with
    | [] => .notANumber
    | sign :: rest =>
        if sign = '-' then ofUnsigned true rest
        else ofUnsigned false (sign :: rest)

end Quantity

namespace Value

def quantity? : Value → Option Quantity
  | .bool b => some (.ofInt (if b then 1 else 0))
  | .int n => some (.ofInt n)
  | .float numeral => some (.ofFloat numeral)
  | _ => none

/-! ## Equality -/

mutual

/-- Whether two values are equal.  Numbers are equal as quantities, compound
values by their parts, dictionaries whatever their order; values of different
kinds are unequal otherwise. -/
def same : Value → Value → Bool
  | .null, .null => true
  | .bool a, v => sameQuantity (.bool a) v
  | .int a, v => sameQuantity (.int a) v
  | .float a, v => sameQuantity (.float a) v
  | .text s, .text t => s == t
  | .bytes s, .bytes t => s == t
  | .list vs, .list ws => sameItems vs ws
  | .dict es, .dict fs => es.length == fs.length && sameEntries es fs
  | .span s, .span t => s == t
  | .token l p, .token m q => same l m && same p q
  | _, _ => false
where
  sameQuantity (v w : Value) : Bool :=
    match v.quantity?, w.quantity? with
    | some a, some b => a.same b
    | _, _ => false

def sameItems : List Value → List Value → Bool
  | [], [] => true
  | v :: vs, w :: ws => same v w && sameItems vs ws
  | _, _ => false

def sameEntries : List (Value × Value) → List (Value × Value) → Bool
  | [], _ => true
  | (k, v) :: rest, fs =>
      fs.any (fun entry => same k entry.1 && same v entry.2) &&
        sameEntries rest fs

end

/-! ## Dictionaries -/

/-- The kind that keeps a value from being a key. -/
def changeable? : Value → Option Text
  | .list items => some (Value.list items).kind
  | .dict entries => some (Value.dict entries).kind
  | .token lexeme place =>
      match changeable? lexeme with
      | some kind => some kind
      | none => changeable? place
  | _ => none

/-- The entries with a key set to a value. -/
def setEntry (k v : Value) : List (Value × Value) → List (Value × Value)
  | [] => [(k, v)]
  | (l, w) :: rest =>
      if l.same k then (l, v) :: rest else (l, w) :: setEntry k v rest

def setEntries (done : List (Value × Value)) :
    List (Value × Value) → Except Fault (List (Value × Value))
  | [] => .ok done
  | (k, v) :: rest =>
      match k.changeable? with
      | some kind => .error (.unhashable kind)
      | none => setEntries (setEntry k v done) rest

def makeDict (entries : List (Value × Value)) : Except Fault Value :=
  (setEntries [] entries).map .dict

end Value

end SourceSpans
