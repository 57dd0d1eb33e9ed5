import SourceSpans.Proofs.Value.Json
import SourceSpans.Tool.Request

/-!
# Printing line by line

A run prints its lines in their order and stops at the first one that cannot be
written.  A result is printed on one line in either presentation, a span as soon as
its end has a numeral.
-/

namespace SourceSpans

/-! ## Runs -/

open Text

theorem Text.ofLines_append (lines lines' : List Text) :
    ofLines (lines ++ lines') = ofLines lines ++ ofLines lines' :=
  List.flatMap_append

theorem Text.ofLines_of_isPrefix {first lines : List Text} (h : first <+: lines) :
    ofLines first <+: ofLines lines := by
  obtain ⟨rest, rfl⟩ := h
  rw [ofLines_append]
  exact List.prefix_append _ _

namespace Run

variable {first ls ls' : List (Except Fault Text)}

theorem printing_ok (lines : List Text) :
    printing (lines.map .ok) = ⟨.status 0, ofLines lines, []⟩ := by
  induction lines with
  | nil => rfl
  | cons line rest ih =>
    rw [List.map_cons, printing, ih]
    rfl

/-- Printing ends well only when every line can be written. -/
theorem exists_lines_of_printing (h : (printing ls).ending = .status 0) :
    ∃ lines : List Text, ls = lines.map .ok := by
  induction ls with
  | nil => exact ⟨[], rfl⟩
  | cons l rest ih =>
      cases l with
      | error f => cases h
      | ok line =>
          obtain ⟨lines, rfl⟩ := ih h
          exact ⟨line :: lines, rfl⟩

/-- When printing ends well, it ends well with the first lines alone, and what is
printed then comes first. -/
theorem printing_of_isPrefix (h : first <+: ls) (hends : (printing ls).ending = .status 0) :
    (printing first).ending = .status 0 ∧ (printing first).out <+: (printing ls).out := by
  obtain ⟨lines, rfl⟩ := exists_lines_of_printing hends
  obtain ⟨few, hfew, rfl⟩ := List.prefix_map_iff.mp h
  rw [printing_ok, printing_ok]
  exact ⟨rfl, ofLines_of_isPrefix hfew⟩

/-- What is printed for two lists one after the other is printed for each of them, as
long as both can be printed to the end. -/
theorem printing_append (h : (printing ls).ending = .status 0)
    (h' : (printing ls').ending = .status 0) :
    printing (ls ++ ls') = ⟨.status 0, (printing ls).out ++ (printing ls').out, []⟩ := by
  obtain ⟨lines, rfl⟩ := exists_lines_of_printing h
  obtain ⟨lines', rfl⟩ := exists_lines_of_printing h'
  rw [← List.map_append, printing_ok, printing_ok, printing_ok, ofLines_append]

end Run

/-! ## The lines of results -/

/-- Every number of a result has a numeral. -/
def Finding.Writable : Finding → Prop
  | .span s => s.stop < Numeral.limit
  | .truth _ => True

namespace Request

theorem numbersText?_of_lt {s : Span} (h : s.stop < Numeral.limit) :
    numbersText? s = some ("start=" ++ Numeral.digits s.start ++ " length=" ++
      Numeral.digits s.length ++ " end=" ++ Numeral.digits s.stop) := by
  have hstart : s.start < Numeral.limit := Nat.lt_of_le_of_lt s.start_le_stop h
  have hlength : s.length < Numeral.limit :=
    Nat.lt_of_le_of_lt (Nat.le_add_left s.length s.start) h
  simp [numbersText?, Bracketed.ofNat?_of_lt h, Bracketed.ofNat?_of_lt hstart,
    Bracketed.ofNat?_of_lt hlength]

theorem numbersText?_of_le {s : Span} (h : Numeral.limit ≤ s.stop) :
    numbersText? s = none := by
  cases hstart : Numeral.ofNat? s.start with
  | none => simp [numbersText?, hstart]
  | some start =>
      cases hlength : Numeral.ofNat? s.length with
      | none => simp [numbersText?, hstart, hlength]
      | some length =>
          simp [numbersText?, hstart, hlength, Bracketed.ofNat?_of_le h]

theorem plain_of_numbersText? {s : Span} (h : s.stop < Numeral.limit) {t : Text}
    (ht : numbersText? s = some t) : t.Plain := by
  have hdigits : ∀ n, (Numeral.digits n).Plain := Numeral.plain_digits
  rw [numbersText?_of_lt h] at ht
  obtain rfl := Option.some.inj ht
  simp only [within_append]
  exact ⟨⟨⟨⟨⟨by decide, hdigits _⟩, by decide⟩, hdigits _⟩, by decide⟩, hdigits _⟩

theorem plainLine?_of_writable (command : Command) {finding : Finding}
    (h : finding.Writable) :
    ∃ t, plainLine? command finding = some t ∧ t.Plain := by
  cases finding with
  | truth b => exact ⟨Json.ofBool b, rfl, Json.plain_ofBool b⟩
  | span s =>
      by_cases hparse : command = .parse
      · have hnumbers := numbersText?_of_lt h
        exact ⟨_, by rw [plainLine?, if_pos hparse, hnumbers],
          plain_of_numbersText? h hnumbers⟩
      · have hform := Bracketed.ofSpan?_of_lt h
        exact ⟨_, by rw [plainLine?, if_neg hparse, hform],
          Bracketed.plain_of_ofSpan? hform⟩

/-- A result all of whose numbers have numerals is printed on one line. -/
theorem line_of_writable (json : Bool) (command : Command) {finding : Finding}
    (h : finding.Writable) :
    ∃ t, line json command finding = .ok t ∧ t.Plain := by
  cases json with
  | false =>
      obtain ⟨t, ht, hplain⟩ := plainLine?_of_writable command h
      exact ⟨t, by simp [line, ht], hplain⟩
  | true =>
      cases finding with
      | span s =>
          obtain ⟨t, ht, hplain⟩ := Value.json_span_of_lt h
          exact ⟨t, by simp [line, Finding.value, ht], hplain⟩
      | truth b =>
          exact ⟨Json.ofBool b, by simp [line, Finding.value, Value.json_bool],
            Json.plain_ofBool b⟩

theorem line_span_of_le (json : Bool) (command : Command) {s : Span}
    (h : Numeral.limit ≤ s.stop) :
    line json command (.span s) = .error .overlong := by
  cases json with
  | true => simp [line, Finding.value, Value.json_span_of_le h]
  | false =>
      have hnone : plainLine? command (.span s) = none := by
        by_cases hparse : command = .parse
        · rw [plainLine?, if_pos hparse, numbersText?_of_le h]
        · rw [plainLine?, if_neg hparse, Bracketed.ofSpan?_of_le h]
      simp [line, hnone]

/-- Results that can all be printed are printed to the last, one on each line. -/
theorem printing_of_writable (json : Bool) (command : Command)
    {findings : List Finding} (h : ∀ finding ∈ findings, finding.Writable) :
    ∃ ts : List Text, ts.length = findings.length ∧ (∀ t ∈ ts, t.Unbroken) ∧
      Run.printing (findings.map (line json command)) =
        ⟨.status 0, ofLines ts, []⟩ := by
  induction findings with
  | nil => exact ⟨[], rfl, by simp, rfl⟩
  | cons finding rest ih =>
      obtain ⟨hfinding, hrest⟩ := List.forall_mem_cons.mp h
      obtain ⟨t, ht, hplain⟩ := line_of_writable json command hfinding
      obtain ⟨ts, hlength, hunbroken, hprinting⟩ := ih hrest
      refine ⟨t :: ts, by simp [hlength], ?_, ?_⟩
      · exact List.forall_mem_cons.mpr ⟨hplain.unbroken, hunbroken⟩
      · rw [List.map_cons, ht, Run.printing, hprinting]
        rfl

end Request

namespace Log

/-- A record stays on one line, whatever text was rejected. -/
theorem unbroken_rejected (t : Text) (why : Bracketed.Rejection) :
    (rejected t why).line.Unbroken := by
  have hhead : Unbroken ("DEBUG " ++ Speaker.reader.name ++ ": ") := by decide
  have hopening : Unbroken "rejected span text " := by decide
  refine within_append.mpr ⟨hhead, ?_⟩
  cases why with
  | noMatch =>
      exact within_append.mpr
        ⟨within_append.mpr ⟨hopening, Quoted.unbroken_ofText t⟩, by decide⟩
  | unreadable =>
      exact within_append.mpr
        ⟨within_append.mpr ⟨hopening, Quoted.unbroken_ofText (t.take 64)⟩, by decide⟩
  | reversed =>
      exact within_append.mpr
        ⟨within_append.mpr ⟨hopening, Quoted.unbroken_ofText t⟩, by decide⟩

theorem unbroken_running (command : Command) :
    (running command.name).line.Unbroken := by
  cases command with
  | format => decide
  | parse => decide
  | pair op => cases op <;> decide

end Log

end SourceSpans
