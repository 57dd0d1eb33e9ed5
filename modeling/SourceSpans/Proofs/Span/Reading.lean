import SourceSpans.Proofs.Numeral.LeadingZeros
import SourceSpans.Proofs.Span.Ends
import SourceSpans.Value.Spans

/-!
# Which texts are read as spans

A text is read as a span exactly when it is two runs of ASCII digits in brackets,
neither of them too long, and the second number is not less than the first.  Every
other text fails one of three tests, and the first one that it fails is recorded: the
form, then the number of digits, then the order of the two numbers.
-/

namespace SourceSpans

namespace Bracketed

/-- The text has the bracketed form of a span, with the given runs of digits as
its two ends. -/
structure Denotes (t first second : Text) : Prop where
  form : t = "[" ++ first ++ ":" ++ second ++ "]"
  isRun_first : IsRun first
  isRun_second : IsRun second
  length_first_le : first.length ≤ Numeral.maxDigits
  length_second_le : second.length ≤ Numeral.maxDigits
  value_le : Numeral.value first ≤ Numeral.value second

theorem enclose_eq (first second : Text) :
    enclose first second = "[" ++ first ++ ":" ++ second ++ "]" := by
  have hopening : ("[" : Text) = [0x5B] := rfl
  have hcolon : (":" : Text) = [0x3A] := rfl
  have hclosing : ("]" : Text) = [0x5D] := rfl
  rw [hopening, hcolon, hclosing]
  simp [enclose]

theorem Denotes.fields? {t first second : Text} (h : Denotes t first second) :
    fields? t = some (first, second) := by
  rw [fields?_eq_some_iff, enclose_eq]
  exact ⟨h.form, h.isRun_first, h.isRun_second⟩

theorem Denotes.unique {t first second first' second' : Text}
    (h : Denotes t first second) (h' : Denotes t first' second') :
    first' = first ∧ second' = second := by
  have hsame : some (first, second) = some (first', second') :=
    h.fields?.symm.trans h'.fields?
  simp only [Option.some.injEq, Prod.mk.injEq] at hsame
  exact ⟨hsame.1.symm, hsame.2.symm⟩

/-- Reading succeeds on the bracketed forms of spans and on nothing else. -/
theorem read_eq_ok_iff {t : Text} {s : Span} :
    read t = .ok s ↔
      ∃ first second, Denotes t first second ∧
        s = ⟨Numeral.value first, Numeral.value second - Numeral.value first⟩ := by
  constructor
  · intro h
    unfold read at h
    split at h
    next => simp at h
    next first second hfields =>
      obtain ⟨hform, hfirst, hsecond⟩ := fields?_eq_some_iff.mp hfields
      split at h
      next start stop hstart hstop =>
        split at h
        next hle =>
          simp only [Numeral.read?, Option.ite_none_right_eq_some,
            Option.some.injEq] at hstart hstop
          obtain ⟨hlengthFirst, rfl⟩ := hstart
          obtain ⟨hlengthSecond, rfl⟩ := hstop
          refine ⟨first, second, ?_, (Except.ok.inj h).symm⟩
          exact ⟨hform.trans (enclose_eq first second), hfirst, hsecond,
            hlengthFirst, hlengthSecond, hle⟩
        next => simp at h
      next => simp at h
  · rintro ⟨first, second, h, rfl⟩
    simp only [read, h.fields?, Numeral.read?, if_pos h.length_first_le,
      if_pos h.length_second_le, if_pos h.value_le]

/-- What is read ends below the least number without a numeral. -/
theorem stop_lt_of_read {t : Text} {s : Span} (h : read t = .ok s) :
    s.stop < Numeral.limit := by
  obtain ⟨first, second, hdenotes, rfl⟩ := read_eq_ok_iff.mp h
  rw [Span.stop_mk_sub hdenotes.value_le]
  apply Numeral.lt_limit_of_read? hdenotes.isRun_second
  rw [Numeral.read?, if_pos hdenotes.length_second_le]

end Bracketed

namespace Value

theorem readSpan?_text {t : Text} {s : Span} {log : List Log.Entry} :
    (Value.text t).readSpan? = (some s, log) ↔
      Bracketed.read t = .ok s ∧ log = [] := by
  rw [readSpan?]
  cases hread : Bracketed.read t with
  | ok s' => simp [eq_comm]
  | error why => simp

theorem readSpan_text {t : Text} {s : Span} {log : List Log.Entry} :
    (Value.text t).readSpan = (.ok s, log) ↔
      Bracketed.read t = .ok s ∧ log = [] := by
  rw [readSpan, readSpan?]
  cases hread : Bracketed.read t with
  | ok s' => simp [eq_comm]
  | error why => simp

section ReadSpan

variable {v : Value} {s : Span}

theorem readSpan_of_some (h : v.readSpan?.1 = some s) :
    v.readSpan = (.ok s, v.readSpan?.2) := by
  unfold readSpan
  cases hread : v.readSpan? with
  | mk found log =>
      rw [hread] at h
      obtain rfl : found = some s := h
      rfl

theorem readSpan_of_none (h : v.readSpan?.1 = none) :
    v.readSpan = (.error (.malformed v), v.readSpan?.2) := by
  unfold readSpan
  cases hread : v.readSpan? with
  | mk found log =>
      rw [hread] at h
      obtain rfl : found = none := h
      rfl

theorem readSpan_fst_eq_ok_iff : v.readSpan.1 = .ok s ↔ v.readSpan?.1 = some s := by
  cases hread : v.readSpan?.1 with
  | none => simp [readSpan_of_none hread]
  | some s' => simp [readSpan_of_some hread]

theorem readSpan_fst_eq_error_iff {c : Complaint} :
    v.readSpan.1 = .error c ↔ v.readSpan?.1 = none ∧ c = .malformed v := by
  cases hread : v.readSpan?.1 with
  | none => simp [readSpan_of_none hread, eq_comm]
  | some s' => simp [readSpan_of_some hread]

theorem readSpan?_fst_text {t : Text} :
    (Value.text t).readSpan?.1 = some s ↔ Bracketed.read t = .ok s := by
  rw [readSpan?]
  cases Bracketed.read t with
  | ok s' => simp
  | error why => simp

theorem stop_lt_of_readSpan? (h : v.readSpan?.1 = some s) :
    s.stop < Numeral.limit := by
  cases v with
  | text t => exact Bracketed.stop_lt_of_read (readSpan?_fst_text.mp h)
  | _ => simp [readSpan?] at h

end ReadSpan

theorem makeSpan_of_le {first last : Nat} (h : first ≤ last) :
    makeSpan (.int first) (.int ((last : Int) - first)) =
      .ok ⟨first, last - first⟩ := by
  have hmake := Span.between_of_le h
  rw [Span.between] at hmake
  simp only [makeSpan, int?, hmake]
  rfl

theorem readSpan?_text_eq_none {t : Text} :
    (Value.text t).readSpan?.1 = none ↔
      ¬∃ first second, Bracketed.Denotes t first second := by
  rw [readSpan?]
  cases hread : Bracketed.read t with
  | ok s =>
      obtain ⟨first, second, hdenotes, -⟩ := Bracketed.read_eq_ok_iff.mp hread
      simp only [reduceCtorEq, false_iff, not_not]
      exact ⟨first, second, hdenotes⟩
  | error why =>
      simp only [true_iff]
      rintro ⟨first, second, hdenotes⟩
      have hok := Bracketed.read_eq_ok_iff.mpr ⟨first, second, hdenotes, rfl⟩
      rw [hread] at hok
      simp at hok

/-- A text is read as a span exactly when it denotes one.  The span then is what
the checked construction makes of the first number and of the difference of the
two, and nothing is logged; every other text is answered by no span. -/
theorem readSpan?_text_iff_denotes (t : Text) :
    (∀ s log, (Value.text t).readSpan? = (some s, log) ↔
      log = [] ∧ ∃ first second, Bracketed.Denotes t first second ∧
        makeSpan (.int (Numeral.value first))
            (.int ((Numeral.value second : Int) - Numeral.value first)) = .ok s ∧
        s = ⟨Numeral.value first, Numeral.value second - Numeral.value first⟩ ∧
        s.stop = Numeral.value second) ∧
    (∀ first second first' second', Bracketed.Denotes t first second →
      Bracketed.Denotes t first' second' → first' = first ∧ second' = second) ∧
    ((Value.text t).readSpan?.1 = none ↔
      ¬∃ first second, Bracketed.Denotes t first second) := by
  refine ⟨fun s log => ?_, fun _ _ _ _ h h' => h.unique h', readSpan?_text_eq_none⟩
  rw [readSpan?_text, Bracketed.read_eq_ok_iff, and_comm]
  refine and_congr_right fun _ => ?_
  constructor
  · rintro ⟨first, second, hdenotes, rfl⟩
    have hle := hdenotes.value_le
    exact ⟨first, second, hdenotes, makeSpan_of_le hle, rfl, Span.stop_mk_sub hle⟩
  · rintro ⟨first, second, hdenotes, -, hs, -⟩
    exact ⟨first, second, hdenotes, hs⟩

end Value

/-! ## Why a text is no span -/

namespace Bracketed

open Numeral (maxDigits value)

/-- The text consists of two runs of digits in brackets. -/
def HasForm (t first second : Text) : Prop :=
  t = "[" ++ first ++ ":" ++ second ++ "]" ∧ IsRun first ∧ IsRun second

/-- A run that has too many digits to be read. -/
def Overlong (run : Text) : Prop := maxDigits < run.length

instance (run : Text) : Decidable (Overlong run) :=
  inferInstanceAs (Decidable (maxDigits < run.length))

theorem fields?_eq_some_iff_hasForm {t first second : Text} :
    fields? t = some (first, second) ↔ HasForm t first second := by
  rw [fields?_eq_some_iff, enclose_eq, HasForm]

variable {t first second : Text}

theorem read?_eq_none_iff {run : Text} : Numeral.read? run = none ↔ Overlong run := by
  simp [Numeral.read?, Overlong]

theorem read?_of_not_overlong {run : Text} (h : ¬Overlong run) :
    Numeral.read? run = some (value run) :=
  if_pos (Nat.le_of_not_lt h)

/-! ### The three tests -/

/-- A text that passes the first test is judged by the other two. -/
theorem HasForm.read (h : HasForm t first second) :
    read t =
      if Overlong first ∨ Overlong second then .error .unreadable
      else if value second < value first then .error .reversed
      else .ok ⟨value first, value second - value first⟩ := by
  rw [Bracketed.read, fields?_eq_some_iff_hasForm.mpr h]
  dsimp only
  by_cases hlong : Overlong first ∨ Overlong second
  · rw [if_pos hlong]
    rcases hlong with hfirst | hsecond
    · rw [read?_eq_none_iff.mpr hfirst]
    · rw [read?_eq_none_iff.mpr hsecond]
      cases Numeral.read? first with
      | none => rfl
      | some n => rfl
  · rw [if_neg hlong]
    obtain ⟨hfirst, hsecond⟩ := not_or.mp hlong
    rw [read?_of_not_overlong hfirst, read?_of_not_overlong hsecond]
    dsimp only
    by_cases hlt : value second < value first
    · rw [if_pos hlt, if_neg (Nat.not_le.mpr hlt)]
    · rw [if_neg hlt, if_pos (Nat.not_lt.mp hlt)]

theorem read_of_not_hasForm (h : ¬∃ first second, HasForm t first second) :
    read t = .error .noMatch := by
  have hnone : fields? t = none := by
    rw [Option.eq_none_iff_forall_ne_some]
    intro fields hfields
    exact h ⟨fields.1, fields.2, fields?_eq_some_iff_hasForm.mp hfields⟩
  rw [read, hnone]

/-- The form is tested first. -/
theorem read_eq_noMatch_iff :
    read t = .error .noMatch ↔ ¬∃ first second, HasForm t first second := by
  constructor
  · intro hread hform
    obtain ⟨first, second, h⟩ := hform
    rw [h.read] at hread
    split_ifs at hread
    all_goals cases hread
  · intro h
    exact read_of_not_hasForm h

theorem exists_hasForm_of_read {why : Rejection} (h : read t = .error why)
    (hwhy : why ≠ .noMatch) : ∃ first second, HasForm t first second := by
  by_contra hform
  rw [read_of_not_hasForm hform] at h
  exact hwhy (Except.error.inj h).symm

/-- The number of digits is tested next, for either run. -/
theorem read_eq_unreadable_iff :
    read t = .error .unreadable ↔
      ∃ first second, HasForm t first second ∧ (Overlong first ∨ Overlong second) := by
  constructor
  · intro hread
    obtain ⟨first, second, h⟩ := exists_hasForm_of_read hread (by decide)
    refine ⟨first, second, h, ?_⟩
    by_contra hlong
    rw [h.read, if_neg hlong] at hread
    split_ifs at hread
    all_goals cases hread
  · intro h
    obtain ⟨first, second, hform, hlong⟩ := h
    rw [hform.read, if_pos hlong]

/-- The order of the numbers is tested last. -/
theorem read_eq_reversed_iff :
    read t = .error .reversed ↔
      ∃ first second, HasForm t first second ∧ ¬(Overlong first ∨ Overlong second) ∧
        value second < value first := by
  constructor
  · intro hread
    obtain ⟨first, second, h⟩ := exists_hasForm_of_read hread (by decide)
    rw [h.read] at hread
    by_cases hlong : Overlong first ∨ Overlong second
    · rw [if_pos hlong] at hread
      cases hread
    · rw [if_neg hlong] at hread
      split_ifs at hread with hlt
      exact ⟨first, second, h, hlong, hlt⟩
  · intro h
    obtain ⟨first, second, hform, hlong, hlt⟩ := h
    rw [hform.read, if_neg hlong, if_pos hlt]

end Bracketed

/-! ### The record -/

namespace Log

open Bracketed (Rejection)

/-- The line of a record that shows some text and says why it was rejected. -/
def rejectionLine (shown why : Text) : Text :=
  "DEBUG textspan.spans: rejected span text " ++ Quoted.ofText shown ++ ": " ++ why

/-- What a record shows of a text: the whole of it, or the beginning of one with too
many digits. -/
def shown (t : Text) : Rejection → Text
  | .unreadable => t.take 64
  | _ => t

/-- The words of a record for each test that a text can fail. -/
def reason : Rejection → Text
  | .noMatch => "no match"
  | .unreadable => "offset is not a convertible integer"
  | .reversed => "end before start"

theorem line_rejected (t : Text) (why : Rejection) :
    (rejected t why).line = rejectionLine (shown t why) (reason why) := by
  have hhead : ("DEBUG textspan.spans: rejected span text " : Text) =
      "DEBUG " ++ (rejected t why).speaker.name ++ ": " ++ "rejected span text " := by rfl
  have hmessage : (rejected t why).message =
      "rejected span text " ++ Quoted.ofText (shown t why) ++ (": " ++ reason why) := by
    cases why with
    | noMatch => rfl
    | unreadable => rfl
    | reversed => rfl
  rw [Entry.line, hmessage, rejectionLine, hhead]
  simp only [List.append_assoc]

theorem getLast?_rejectionLine (t : Text) (why : Rejection) :
    (rejectionLine t (reason why)).getLast? = (reason why).getLast? := by
  have hlast : ((reason why).getLast?).isSome := by
    cases why with
    | noMatch => decide
    | unreadable => decide
    | reversed => decide
  rw [rejectionLine, List.getLast?_append, Option.or_of_isSome hlast]

theorem reason_ends {why why' : Rejection}
    (h : (reason why).getLast? = (reason why').getLast?) : why = why' := by
  cases why <;> cases why'
  all_goals first
    | rfl
    | exact absurd h (by decide)

/-- The line of a record says which test was failed. -/
theorem line_rejected_eq_iff {t : Text} {why : Rejection} (why' : Rejection) :
    (rejected t why).line = rejectionLine (shown t why') (reason why') ↔ why = why' := by
  constructor
  · intro h
    apply reason_ends
    rw [← getLast?_rejectionLine (shown t why), ← getLast?_rejectionLine (shown t why'),
      ← line_rejected, h]
  · intro h
    rw [h, line_rejected]

end Log

namespace Value

open Bracketed (HasForm Overlong read)

/-- A text that is no span leaves one record, of the test that it fails. -/
theorem readSpan?_of_error {t : Text} {why : Bracketed.Rejection} (h : read t = .error why) :
    (Value.text t).readSpan? = (none, [Log.rejected t why]) := by
  rw [readSpan?, h]

theorem readSpan?_of_not_text {v : Value} (h : ∀ t, v ≠ .text t) :
    v.readSpan? = (none, []) := by
  cases v with
  | text t => exact absurd rfl (h t)
  | _ => rw [readSpan?]; intro t ht; cases ht

theorem readSpan?_snd_of_some {v : Value} {s : Span} (h : v.readSpan?.1 = some s) :
    v.readSpan?.2 = [] := by
  cases v with
  | text t =>
      have hread := readSpan?_fst_text.mp h
      rw [readSpan?, hread]
  | _ => simp [readSpan?] at h

theorem readSpan_snd (v : Value) : v.readSpan.2 = v.readSpan?.2 := by
  cases hread : v.readSpan?.1 with
  | none => rw [readSpan_of_none hread]
  | some s => rw [readSpan_of_some hread]

/-- Why a value is not read as a span, and what is recorded of it.  The reader that
must find a span fails with the value itself exactly where the other one finds none,
and otherwise finds the same span; both keep the same records.  Nothing is recorded
of a value that is no text or is a span.  One record is kept of every other text: of
its form when it is not two runs of digits in brackets, else of the numbers when one
of the runs is too long, and this record shows the beginning of the text only, else
of their order, which then is the wrong one.  One of the three always is the case. -/
theorem readSpan_diagnosed (v : Value) :
    (v.readSpan.1 = .error (.malformed v) ↔ v.readSpan?.1 = none) ∧
      (∀ c, v.readSpan.1 = .error c → c = .malformed v) ∧
      (∀ s, v.readSpan.1 = .ok s ↔ v.readSpan?.1 = some s) ∧
      v.readSpan.2 = v.readSpan?.2 ∧
      ((∀ t, v ≠ .text t) → v.readSpan?.1 = none ∧ v.readSpan?.2 = []) ∧
      (∀ s, v.readSpan?.1 = some s → v.readSpan?.2 = []) ∧
      ∀ t, v = .text t → v.readSpan?.1 = none →
        ∃ record, v.readSpan?.2 = [record] ∧
          (record.line = Log.rejectionLine t "no match" ↔
            ¬∃ first second, HasForm t first second) ∧
          (record.line =
              Log.rejectionLine (t.take 64) "offset is not a convertible integer" ↔
            ∃ first second, HasForm t first second ∧ (Overlong first ∨ Overlong second)) ∧
          (record.line = Log.rejectionLine t "end before start" ↔
            ∃ first second, HasForm t first second ∧
              ¬(Overlong first ∨ Overlong second) ∧
              Numeral.value second < Numeral.value first) ∧
          ((¬∃ first second, HasForm t first second) ∨
            (∃ first second, HasForm t first second ∧ (Overlong first ∨ Overlong second)) ∨
            ∃ first second, HasForm t first second ∧
              ¬(Overlong first ∨ Overlong second) ∧
              Numeral.value second < Numeral.value first) := by
  refine ⟨?_, ?_, fun s => readSpan_fst_eq_ok_iff, readSpan_snd v, ?_, ?_, ?_⟩
  · rw [readSpan_fst_eq_error_iff]
    exact and_iff_left rfl
  · intro c hc
    exact (readSpan_fst_eq_error_iff.mp hc).2
  · intro htext
    rw [readSpan?_of_not_text htext]
    exact ⟨rfl, rfl⟩
  · intro s hs
    exact readSpan?_snd_of_some hs
  · intro t htext hnone
    subst htext
    cases hread : read t with
    | ok s => simp [readSpan?, hread] at hnone
    | error why =>
        have hline : ∀ why', (Log.rejected t why).line =
            Log.rejectionLine (Log.shown t why') (Log.reason why') ↔
              read t = .error why' := by
          intro why'
          rw [Log.line_rejected_eq_iff, hread, Except.error.injEq]
        refine ⟨Log.rejected t why, by rw [readSpan?_of_error hread], ?_, ?_, ?_, ?_⟩
        · exact (hline .noMatch).trans Bracketed.read_eq_noMatch_iff
        · exact (hline .unreadable).trans Bracketed.read_eq_unreadable_iff
        · exact (hline .reversed).trans Bracketed.read_eq_reversed_iff
        · cases why with
          | noMatch => exact .inl (Bracketed.read_eq_noMatch_iff.mp hread)
          | unreadable => exact .inr (.inl (Bracketed.read_eq_unreadable_iff.mp hread))
          | reversed => exact .inr (.inr (Bracketed.read_eq_reversed_iff.mp hread))

end Value

end SourceSpans
