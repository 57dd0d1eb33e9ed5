import SourceSpans.Numeral
import SourceSpans.Span.Basic

/-!
# The bracketed form of a span

A span is written as its two ends between brackets, `[start:stop]`.  Reading is
stricter than the numerals of other readers, ASCII digits and nothing else, but
leading zeros are allowed; writing never produces them.
-/

namespace SourceSpans

namespace Bracketed

/-- Two texts in brackets with a colon between them. -/
def enclose (first second : Text) : Text :=
  (0x5B : CodePoint) :: first ++ (0x3A : CodePoint) :: second ++ [0x5D]

/-- The text of a span, unless an end has no numeral. -/
def ofSpan? (s : Span) : Option Text := do
  let start ← Numeral.ofNat? s.start
  let stop ← Numeral.ofNat? s.stop
  return enclose start stop

/-- Why a text is not the bracketed form of a span. -/
inductive Rejection where
  /-- The text does not have the form at all. -/
  | noMatch
  /-- An end has too many digits. -/
  | unreadable
  /-- The second end lies before the first. -/
  | reversed
  deriving DecidableEq

/-- The two runs of digits of a text in bracketed form. -/
def fields? : Text → Option (Text × Text)
  | [] => none
  | opening :: afterOpening =>
      let first := afterOpening.takeWhile CodePoint.isDigit
      match afterOpening.dropWhile CodePoint.isDigit with
      | [] => none
      | colon :: afterColon =>
          let second := afterColon.takeWhile CodePoint.isDigit
          if opening = 0x5B ∧ first ≠ [] ∧ colon = 0x3A ∧ second ≠ [] ∧
              afterColon.dropWhile CodePoint.isDigit = [0x5D] then
            some (first, second)
          else none

/-- The span of a text in bracketed form, or why there is none.  The form is
judged first, then the number of digits, then the order of the ends. -/
def read (t : Text) : Except Rejection Span :=
  match fields? t with
  | none => .error .noMatch
  | some (first, second) =>
      match Numeral.read? first, Numeral.read? second with
      | some start, some stop =>
          if start ≤ stop then .ok ⟨start, stop - start⟩
          else .error .reversed
      | _, _ => .error .unreadable

/-! ## The form -/

/-- A run of digits: at least one, and nothing else. -/
def IsRun (t : Text) : Prop := t ≠ [] ∧ ∀ c ∈ t, c.isDigit = true

theorem isRun_digits (n : Nat) : IsRun (Numeral.digits n) :=
  ⟨Numeral.digits_ne_nil n, fun _ h => Numeral.isDigit_of_mem_digits h⟩

theorem isRun_of_ofNat? {n : Nat} {t : Text}
    (h : Numeral.ofNat? n = some t) : IsRun t := by
  unfold Numeral.ofNat? at h
  split at h
  next =>
    obtain rfl := Option.some.inj h
    exact isRun_digits n
  next => simp at h

theorem takeWhile_run_append {t rest : Text} {c : CodePoint}
    (ht : ∀ d ∈ t, d.isDigit = true) (hc : c.isDigit = false) :
    (t ++ c :: rest).takeWhile CodePoint.isDigit = t := by
  rw [List.takeWhile_append_of_pos ht, List.takeWhile_cons_of_neg (by simp [hc]),
    List.append_nil]

theorem dropWhile_run_append {t rest : Text} {c : CodePoint}
    (ht : ∀ d ∈ t, d.isDigit = true) (hc : c.isDigit = false) :
    (t ++ c :: rest).dropWhile CodePoint.isDigit = c :: rest := by
  rw [List.dropWhile_append_of_pos ht, List.dropWhile_cons_of_neg (by simp [hc])]

theorem fields?_enclose {first second : Text}
    (hfirst : IsRun first) (hsecond : IsRun second) :
    fields? (enclose first second) = some (first, second) := by
  have hcolon : (0x3A : CodePoint).isDigit = false := by decide
  have hclosing : (0x5D : CodePoint).isDigit = false := by decide
  simp only [enclose, List.cons_append, List.append_assoc, fields?,
    takeWhile_run_append hfirst.2 hcolon, dropWhile_run_append hfirst.2 hcolon,
    takeWhile_run_append hsecond.2 hclosing,
    dropWhile_run_append hsecond.2 hclosing]
  rw [if_pos ⟨trivial, hfirst.1, trivial, hsecond.1, trivial⟩]

theorem isRun_takeWhile {t : Text}
    (h : t.takeWhile CodePoint.isDigit ≠ []) :
    IsRun (t.takeWhile CodePoint.isDigit) :=
  ⟨h, List.all_eq_true.mp List.all_takeWhile⟩

/-- A text has fields exactly when it is two runs of digits in brackets. -/
theorem fields?_eq_some_iff {t first second : Text} :
    fields? t = some (first, second) ↔
      t = enclose first second ∧ IsRun first ∧ IsRun second := by
  constructor
  · intro h
    cases t with
    | nil => simp [fields?] at h
    | cons opening afterOpening =>
        simp only [fields?] at h
        split at h
        next => simp at h
        next colon afterColon hdrop =>
          split at h
          next hform =>
            obtain ⟨rfl, hfirst, rfl, hsecond, hclosing⟩ := hform
            simp only [Option.some.injEq, Prod.mk.injEq] at h
            obtain ⟨rfl, rfl⟩ := h
            refine ⟨?_, isRun_takeWhile hfirst, isRun_takeWhile hsecond⟩
            rw [enclose, ← hclosing, List.append_assoc, List.cons_append,
              List.cons_append, List.takeWhile_append_dropWhile, ← hdrop,
              List.takeWhile_append_dropWhile]
          next => simp at h
  · rintro ⟨rfl, hfirst, hsecond⟩
    exact fields?_enclose hfirst hsecond

/-- What is written for a span is read as that span. -/
theorem read_of_ofSpan? {s : Span} {t : Text} (h : ofSpan? s = some t) :
    read t = .ok s := by
  unfold ofSpan? at h
  cases hstart : Numeral.ofNat? s.start with
  | none => simp [hstart] at h
  | some first =>
      cases hstop : Numeral.ofNat? s.stop with
      | none => simp [hstart, hstop] at h
      | some second =>
          obtain rfl : enclose first second = t := by
            simpa [hstart, hstop] using h
          have hfields : fields? (enclose first second) = some (first, second) := by
            apply fields?_enclose
            · exact isRun_of_ofNat? hstart
            · exact isRun_of_ofNat? hstop
          simp only [read, hfields, Numeral.read?_of_ofNat? hstart,
            Numeral.read?_of_ofNat? hstop]
          have hle : s.start ≤ s.stop := Nat.le_add_right _ _
          rw [if_pos hle, Span.stop, Nat.add_sub_cancel_left]

end Bracketed

end SourceSpans
