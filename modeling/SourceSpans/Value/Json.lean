import SourceSpans.Fault
import SourceSpans.RunSort
import SourceSpans.Value.Equality

/-!
# JSON

Values are written as JSON in printable ASCII, on one line, with a blank after
each comma and colon and with the keys of every object in order.  A span is an
object of its two numbers, its end and its bracketed form; it is so wherever it
stands in nested lists, while an object of the caller may not hold one.

A value is gone through twice, first to convert its spans and then to write it.
Each time a call is made inside the call for the value around, and there is room
for so many only.
-/

namespace SourceSpans

namespace Json

def unitEscape (n : Nat) : Text := "\\u" ++ Text.hex 4 n

/-- One code point inside a string.  Above the sixteen-bit range it is written
as its surrogate pair. -/
def escape (c : CodePoint) : Text :=
  if c = 0x22 ∨ c = 0x5C then [0x5C, c]
  else if c = 0x0A then "\\n"
  else if c = 0x0D then "\\r"
  else if c = 0x09 then "\\t"
  else if c = 0x0C then "\\f"
  else if c = 0x08 then "\\b"
  else if 0x20 ≤ c.val ∧ c.val ≤ 0x7E then [c]
  else if c.val ≤ 0xFFFF then unitEscape c.val
  else
    let n := c.val - 0x10000
    unitEscape (0xD800 + n / 0x400) ++ unitEscape (0xDC00 + n % 0x400)

def ofText (t : Text) : Text := (0x22 : CodePoint) :: t.flatMap escape ++ [0x22]

def ofBool (b : Bool) : Text := if b then "true" else "false"

/-- A floating-point numeral; what is no number has a word of its own. -/
def ofFloat (numeral : Text) : Text :=
  if numeral = "nan" then "NaN"
  else if numeral = "inf" then "Infinity"
  else if numeral = "-inf" then "-Infinity"
  else numeral

def array (items : List Text) : Text := "[" ++ Text.join ", " items ++ "]"

/-- An object of members that are written already. -/
def object (members : List Text) : Text :=
  "\x7b" ++ Text.join ", " members ++ "\x7d"

def member (key value : Text) : Text := ofText key ++ ": " ++ value

/-- A span as an object. -/
def ofSpan? (s : Span) : Option Text := do
  let stop ← Numeral.ofNat? s.stop
  let length ← Numeral.ofNat? s.length
  let start ← Numeral.ofNat? s.start
  let text ← Bracketed.ofSpan? s
  return object
    [ member "end" stop, member "length" length, member "start" start,
      member "text" (ofText text) ]

/-! ## Calls -/

/-- The most calls that can be open one inside the other. -/
def callLimit : Nat := 1000

/-- How many calls one inside the other a value takes, apart from those for what
stands in a list. -/
structure Calls where
  list : Nat
  span : Nat
  other : Nat

def converting : Calls where
  list := 2
  span := 6
  other := 1

def writing : Calls where
  list := 1
  span := 2
  other := 0

/-- Open a number of calls where there is room for some, and give the room that is
left. -/
def enter (calls : Nat) (activity : Text) (room : Nat) : Except Fault Nat :=
  if calls ≤ room then .ok (room - calls) else .error (.tooDeep activity)

/-- Open the call that writes the items of an array or the members of an object. -/
def enterItems (room : Nat) : Except Fault Nat :=
  enter writing.list " while encoding a JSON object" room

/-- Open the call that writes an object with so many members; two members or more
are compared inside it. -/
def enterObject (members room : Nat) : Except Fault Nat := do
  let inner ← enterItems room
  if members < 2 then return inner
  else (enter 1 " in comparison" inner).map fun _ => inner

end Json

/-! ## Keys -/

namespace Value

/-- Whether one dictionary key stands before another; keys of different sorts
have no order. -/
def keyLess? : Value → Value → Option Bool
  | .text s, .text t => some (decide (s < t))
  | .bytes s, .bytes t => some (decide (s < t))
  | v, w =>
      match v.quantity?, w.quantity? with
      | some a, some b => some (a.less b)
      | _, _ => none

/-- Whether one dictionary key stands before another, or the complaint about
the two. -/
def keyBefore (v w : Value) : Except Fault Bool :=
  match keyLess? v w with
  | some less => .ok less
  | none => .error (.unorderedKeys v.kind w.kind)

/-- Entries in the order of their keys.  Of keys without an order the first two
to meet are reported. -/
def sortEntries {α : Type} (entries : List (Value × α)) :
    Except Fault (List (Value × α)) :=
  RunSort.sort (fun e f => keyBefore e.1 f.1) entries

/-- The text that a dictionary key becomes. -/
def keyText : Value → Except Fault Text
  | .text t => .ok t
  | .null => .ok "null"
  | .bool b => .ok (Json.ofBool b)
  | .int n =>
      match Numeral.ofInt? n with
      | some t => .ok t
      | none => .error .overlong
  | .float numeral => .ok (Json.ofFloat numeral)
  | v => .error (.badKey v.kind)

/-! ## Values -/

def orOverlong : Option Text → Except Fault Text
  | some t => .ok t
  | none => .error .overlong

mutual

/-- Convert the spans that stand in nested lists, from left to right.  What they are
converted to is told by `Json.ofSpan?`, so only the first failure is of interest. -/
def convert (room : Nat) : Value → Except Fault Unit
  | .span s => do
      let _ ← Json.enter Json.converting.span "" room
      (orOverlong (Json.ofSpan? s)).map fun _ => ()
  | .list items => do
      let inner ← Json.enter Json.converting.list "" room
      convertItems inner items
  | _ => (Json.enter Json.converting.other "" room).map fun _ => ()

def convertItems (room : Nat) : List Value → Except Fault Unit
  | [] => .ok ()
  | v :: rest => do
      convert room v
      convertItems room rest

end

def members : List (Value × Except Fault Text) → Except Fault (List Text)
  | [] => .ok []
  | (k, v) :: rest => do
      let key ← keyText k
      let value ← v
      let others ← members rest
      return Json.member key value :: others

/-- The complaint that JSON has no form for a value, which is itself made in a call
inside another one. -/
def refuseJson (room : Nat) (v : Value) : Except Fault Text := do
  let _ ← Json.enter 2 "" room
  throw (.notJson v.kind)

mutual

/-- The JSON of a value; `inList` says that only lists surround it. -/
def encode (inList : Bool) (room : Nat) : Value → Except Fault Text
  | .null => .ok "null"
  | .bool b => .ok (Json.ofBool b)
  | .int n => orOverlong (Numeral.ofInt? n)
  | .float numeral => .ok (Json.ofFloat numeral)
  | .text t => .ok (Json.ofText t)
  | .list items => do
      let inner ← Json.enterItems room
      (encodeItems inList inner items).map Json.array
  | .dict entries => do
      let inner ← Json.enterObject entries.length room
      let sorted ← sortEntries (encodeEntries inner entries)
      return Json.object (← members sorted)
  | .span s =>
      if inList then do
        let _ ← Json.enterObject 4 room
        orOverlong (Json.ofSpan? s)
      else refuseJson room (.span s)
  | .bytes octets => refuseJson room (.bytes octets)
  | .token lexeme place => refuseJson room (.token lexeme place)
  | .featureless => refuseJson room .featureless

/-- The JSON of each item; the first failure counts. -/
def encodeItems (inList : Bool) (room : Nat) : List Value → Except Fault (List Text)
  | [] => .ok []
  | v :: rest => do
      let item ← encode inList room v
      let items ← encodeItems inList room rest
      return item :: items

/-- Each entry with the JSON of its value, failures included. -/
def encodeEntries (room : Nat) :
    List (Value × Value) → List (Value × Except Fault Text)
  | [] => []
  | (k, v) :: rest => (k, encode false room v) :: encodeEntries room rest

end

/-- How many calls are open when the first value is written. -/
def writingCalls : Value → Nat
  | .text _ => 3
  | _ => 4

/-- The JSON of a value where there is room for some number of calls.  All spans in
nested lists are converted before anything is written. -/
def jsonWithin (room : Nat) (v : Value) : Except Fault Text := do
  v.convert room
  let inner ← Json.enter v.writingCalls "" room
  v.encode true inner

/-- The JSON of a value where no call is open yet. -/
def json (v : Value) : Except Fault Text := v.jsonWithin Json.callLimit

end Value

end SourceSpans
