import SourceSpans.Text.Utf8
import SourceSpans.Value.Basic

/-!
# Faults

Everything that can go wrong, by its cause.  A complaint is about a span or the
text of one, and a command reports it to its user; the other faults end a
command.  The message of a fault may itself be impossible to write, because it
would show an integer that has no numeral.
-/

namespace SourceSpans

/-- What is wrong with a span or with the text of one. -/
inductive Complaint where
  /-- A complaint of no particular kind about some values. -/
  | general (about : List Value)
  /-- A number that must not be negative. -/
  | negative (field value : Value)
  /-- A value that is not the bracketed form of a span. -/
  | malformed (text : Value)

namespace Complaint

def message? : Complaint → Option Text
  | .general [] => some ""
  | .general [v] => v.display?
  | .general about => do
      let parts ← Value.literals? about
      return "(" ++ Text.join ", " parts ++ ")"
  | .negative field value => do
      let field ← field.display?
      let value ← value.display?
      return field ++ " must not be negative (got " ++ value ++ ")"
  | .malformed text => do
      let text ← text.literal?
      return "the specified text span string " ++ text ++ " is not valid"

def literal? : Complaint → Option Text
  | .general about => do
      let parts ← Value.literals? about
      return "SpanError(" ++ Text.join ", " parts ++ ")"
  | .negative field value => do
      let field ← field.literal?
      let value ← value.literal?
      return "InvalidSpanError(name=" ++ field ++ ", value=" ++ value ++ ")"
  | .malformed text => do
      let text ← text.literal?
      return "SpanFormatError(text=" ++ text ++ ")"

end Complaint

namespace Span

def Field.name : Field → Text
  | .start => "start"
  | .length => "length"

def Negative.complaint (e : Negative) : Complaint :=
  .negative (.text e.field.name) (.int e.value)

end Span

/-- The cause of a failure. -/
inductive Fault where
  | complaint (c : Complaint)
  /-- The start or the length of a span is no integer. -/
  | notInteger (field : Span.Field) (kind : Text)
  /-- A value is no span and occupies none. -/
  | notSpanLike (kind : Text)
  /-- An integer has too many digits to be written. -/
  | overlong
  /-- A value of a kind that JSON has no form for. -/
  | notJson (kind : Text)
  /-- A dictionary key of a kind that JSON has no form for. -/
  | badKey (kind : Text)
  /-- Dictionary keys of kinds that have no common order. -/
  | unorderedKeys (left right : Text)
  /-- A value of a kind that can be no dictionary key. -/
  | unhashable (kind : Text)
  /-- Spans do not change. -/
  | fixedField (name : Text)
  /-- A random source was asked for with a seed that is no number. -/
  | unusableSeed
  /-- A number of times was given by something that is no number. -/
  | notCount (kind : Text)
  /-- A path was given by something that is none. -/
  | notPath (kind : Text)
  /-- A random number was asked for between `low` and `high`, and there is
  none. -/
  | emptyRange (low high : Int)
  /-- The random source never gives an acceptable number. -/
  | exhausted
  /-- Fewer parts than expected. -/
  | tooFew (expected got : Nat)
  /-- Bytes that are not UTF-8. -/
  | undecodable (m : Utf8.Malformed)
  /-- Too many calls are open one inside the other. -/
  | tooDeep (activity : Text)

namespace Fault

def ofNegative (e : Span.Negative) : Fault := .complaint e.complaint

def overlongMessage : Text :=
  "Exceeds the limit (4300 digits) for integer string conversion; " ++
    "use sys.set_int_max_str_digits() to increase the limit"

def blamedBytes (m : Utf8.Malformed) : Text :=
  if m.length = 1 then
    "byte 0x" ++ Text.hex 2 m.first.toNat ++ " in position " ++
      Numeral.digits m.position
  else
    "bytes in position " ++ Numeral.digits m.position ++ "-" ++
      Numeral.digits (m.position + m.length - 1)

def message? : Fault → Option Text
  | .complaint c => c.message?
  | .notInteger field kind => some (field.name ++ " must be an int, got " ++ kind)
  | .notSpanLike kind =>
      some ("expected a Span or an object with a .span, got " ++ kind)
  | .overlong => some overlongMessage
  | .notJson kind =>
      some ("Object of type " ++ kind ++ " is not JSON serializable")
  | .badKey kind =>
      some ("keys must be str, int, float, bool or None, not " ++ kind)
  | .unorderedKeys left right =>
      some ("'<' not supported between instances of " ++ Quoted.ofText left ++
        " and " ++ Quoted.ofText right)
  | .unhashable kind => some ("unhashable type: " ++ Quoted.ofText kind)
  | .fixedField name => some ("cannot assign to field " ++ Quoted.ofText name)
  | .unusableSeed =>
      some ("The only supported seed types are: None,\n" ++
        "int, float, str, bytes, and bytearray.")
  | .notCount kind =>
      some (Quoted.ofText kind ++ " object cannot be interpreted as an integer")
  | .notPath kind =>
      some ("expected str, bytes or os.PathLike object, not " ++ kind)
  | .emptyRange low high => do
      let first ← Numeral.ofInt? low
      let last ← Numeral.ofInt? (high + 1)
      let width ← Numeral.ofInt? (high - low + 1)
      return "empty range for randrange() (" ++ first ++ ", " ++ last ++ ", " ++
        width ++ ")"
  | .exhausted => some "the random source gives no acceptable number"
  | .tooFew expected got =>
      some ("not enough values to unpack (expected " ++ Numeral.digits expected ++
        ", got " ++ Numeral.digits got ++ ")")
  | .undecodable m =>
      some ("'utf-8' codec can't decode " ++ blamedBytes m ++ ": " ++ m.reason.text)
  | .tooDeep activity => some ("maximum recursion depth exceeded" ++ activity)

end Fault

end SourceSpans
