import SourceSpans.Span.Basic
import SourceSpans.Span.Bracketed
import SourceSpans.Text.Basic
import SourceSpans.Text.Quoted

/-!
# Values of any kind

The operations on spans accept whatever a caller hands them and must say what is wrong
with it, so arguments are values of any kind.  A value appears in a message as a
literal, and there is none when some integer inside has no numeral.
-/

namespace SourceSpans

inductive Value where
  | null
  | bool (b : Bool)
  | int (n : Int)
  /-- A floating-point number, given by its shortest numeral. -/
  | float (numeral : Text)
  | text (t : Text)
  | bytes (octets : List UInt8)
  | list (items : List Value)
  | dict (entries : List (Value × Value))
  | span (s : Span)
  /-- Something that occupies a place, which may be given by any value. -/
  | token (lexeme place : Value)
  /-- A value that shows nothing of itself and is equal to no other. -/
  | featureless

namespace Value

/-- The name of a value's kind in messages. -/
def kind : Value → Text
  | .null => "NoneType"
  | .bool _ => "bool"
  | .int _ => "int"
  | .float _ => "float"
  | .text _ => "str"
  | .bytes _ => "bytes"
  | .list _ => "list"
  | .dict _ => "dict"
  | .span _ => "Span"
  | .token _ _ => "Token"
  | .featureless => "Opaque"

/-- The span that a value is or directly occupies; the place of a place does
not count. -/
def span? : Value → Option Span
  | .span s => some s
  | .token _ (.span s) => some s
  | _ => none

/-- Whether a value occupies a place of any sort; a span is a place and
occupies none. -/
def hasPlace : Value → Bool
  | .token _ _ => true
  | _ => false

end Value

/-! ## Values inside messages -/

namespace Span

/-- The literal of a span names both numbers. -/
def literal? (s : Span) : Option Text := do
  let start ← Numeral.ofNat? s.start
  let length ← Numeral.ofNat? s.length
  return "Span(start=" ++ start ++ ", length=" ++ length ++ ")"

end Span

namespace Value

mutual

def literal? : Value → Option Text
  | .null => some "None"
  | .bool b => some (if b then "True" else "False")
  | .int n => Numeral.ofInt? n
  | .float numeral => some numeral
  | .text t => some (Quoted.ofText t)
  | .bytes octets => some (Quoted.ofBytes octets)
  | .list items =>
      (literals? items).map fun parts => "[" ++ Text.join ", " parts ++ "]"
  | .dict entries =>
      (entryLiterals? entries).map fun parts =>
        "\x7b" ++ Text.join ", " parts ++ "\x7d"
  | .span s => s.literal?
  | .token lexeme place => do
      let lexeme ← literal? lexeme
      let place ← literal? place
      return "Token(lexeme=" ++ lexeme ++ ", span=" ++ place ++ ")"
  | .featureless => some "Opaque()"

def literals? : List Value → Option (List Text)
  | [] => some []
  | v :: rest => do
      let part ← literal? v
      let parts ← literals? rest
      return part :: parts

def entryLiterals? : List (Value × Value) → Option (List Text)
  | [] => some []
  | (k, v) :: rest => do
      let key ← literal? k
      let part ← literal? v
      let parts ← entryLiterals? rest
      return (key ++ ": " ++ part) :: parts

end

/-- A value as a message speaks of it. -/
def display? : Value → Option Text
  | .text t => some t
  | .span s => Bracketed.ofSpan? s
  | v => v.literal?

end Value

end SourceSpans
