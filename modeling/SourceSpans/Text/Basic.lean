/-!
# Text as a list of code points

Offsets into a source text count code points, and a text may hold any code
point, a surrogate without its partner included.  A text is therefore a list
of code points rather than a `String`; a `String` is one such text, and a text
without surrogates is one such `String`.
-/

namespace SourceSpans

/-- A Unicode code point, surrogates included. -/
abbrev CodePoint := Fin 0x110000

/-- There are code points, so a numeral can stand for one. -/
instance CodePoint.neZero : @NeZero Nat Zero.ofOfNat0 0x110000 := ⟨by decide⟩

namespace CodePoint

theorem char_toNat_lt (c : Char) : c.toNat < 0x110000 := by
  rcases c.valid with h | ⟨_, h⟩
  · exact Nat.lt_trans h (by decide)
  · exact h

def ofChar (c : Char) : CodePoint := ⟨c.toNat, char_toNat_lt c⟩

instance : Coe Char CodePoint := ⟨ofChar⟩

/-- The code points that UTF-16 reserves for its pairs. -/
def isSurrogate (c : CodePoint) : Bool :=
  0xD800 ≤ c.val && c.val ≤ 0xDFFF

/-- The digits `0` to `9` and no digit of another script. -/
def isDigit (c : CodePoint) : Bool :=
  0x30 ≤ c.val && c.val ≤ 0x39

/-- A number as a code point, or the replacement character when there is no
such code point. -/
def ofNat (n : Nat) : CodePoint :=
  if h : n < 0x110000 then ⟨n, h⟩ else 0xFFFD

/-- The character of a code point; a surrogate is none. -/
def toChar? (c : CodePoint) : Option Char :=
  if c.isSurrogate then none else some (Char.ofNat c.val)

end CodePoint

/-- A text: any list of code points. -/
abbrev Text := List CodePoint

namespace Text

def ofString (s : String) : Text := s.toList.map CodePoint.ofChar

instance : Coe String Text := ⟨ofString⟩

/-- The string of a text, unless the text holds a surrogate. -/
def toString? (t : Text) : Option String :=
  (t.mapM CodePoint.toChar?).map String.ofList

/-- The string of a text for display; a surrogate shows as the replacement
character. -/
def toDisplay (t : Text) : String :=
  String.ofList (t.map fun c => c.toChar?.getD (Char.ofNat 0xFFFD))

/-- The parts one after another with a separator between neighbours. -/
def join (separator : Text) : List Text → Text
  | [] => []
  | [part] => part
  | part :: next :: rest => part ++ separator ++ join separator (next :: rest)

def withNewline (t : Text) : Text := t ++ [0x0A]

/-- Every text of a list as one line of output. -/
def ofLines (lines : List Text) : Text := lines.flatMap withNewline

/-- Lower-case hexadecimal digits of `n`, padded with zeros to `width`. -/
def hex (width : Nat) (n : Nat) : Text :=
  let digits := (Nat.toDigits 16 n).map CodePoint.ofChar
  List.replicate (width - digits.length) 0x30 ++ digits

end Text

end SourceSpans
