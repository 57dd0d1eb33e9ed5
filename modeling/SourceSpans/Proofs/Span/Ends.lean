import SourceSpans.Span.Basic

/-!
# The ends of a combination

Whatever span is made of a pair runs between two of the four ends of the pair.
So no combination reaches further than its inputs, and one that is impossible is
so by less than they reach.
-/

namespace SourceSpans

namespace Span

theorem stop_mk_sub {first last : Nat} (h : first ≤ last) :
    (⟨first, last - first⟩ : Span).stop = last :=
  Nat.add_sub_of_le h

theorem between_eq_ok_iff {first last : Nat} {s : Span} :
    between first last = .ok s ↔ first ≤ last ∧ s = ⟨first, last - first⟩ := by
  by_cases h : first ≤ last
  · rw [between_of_le h]
    simp [h, eq_comm]
  · rw [between_of_lt (Nat.lt_of_not_le h)]
    simp [h]

theorem between_eq_error_iff {first last : Nat} {e : Negative} :
    between first last = .error e ↔
      last < first ∧ e = ⟨.length, (last : Int) - first⟩ := by
  by_cases h : first ≤ last
  · rw [between_of_le h]
    simp [Nat.not_lt.mpr h]
  · have hlt := Nat.lt_of_not_le h
    rw [between_of_lt hlt]
    simp [hlt, eq_comm]

/-- An offset that is one of the four ends of a pair. -/
def IsEnd (a b : Span) (x : Nat) : Prop :=
  x = a.start ∨ x = a.stop ∨ x = b.start ∨ x = b.stop

theorem start_le_stop (s : Span) : s.start ≤ s.stop := Nat.le_add_right _ _

theorem IsEnd.lt {a b : Span} {x n : Nat} (h : IsEnd a b x)
    (ha : a.stop < n) (hb : b.stop < n) : x < n := by
  have hstartA := start_le_stop a
  have hstartB := start_le_stop b
  unfold IsEnd at h
  omega

theorem isEnd_inOrder (a b : Span) :
    IsEnd a b (inOrder a b).1.start ∧ IsEnd a b (inOrder a b).1.stop ∧
      IsEnd a b (inOrder a b).2.start ∧ IsEnd a b (inOrder a b).2.stop := by
  by_cases h : a.start ≤ b.start
  · simp [inOrder_of_le h, IsEnd]
  · simp [inOrder_of_lt (Nat.lt_of_not_le h), IsEnd]

end Span

namespace PairOp

open SourceSpans.Span (IsEnd)

/-- Every combination is the span between two ends of the pair, if they are in
order. -/
theorem answer_eq_between {op : PairOp} (hop : op ≠ .overlaps) (a b : Span) :
    ∃ first last, IsEnd a b first ∧ IsEnd a b last ∧
      op.answer a b = (Span.between first last).map Finding.span := by
  obtain ⟨hstart, hstop, hnextStart, hnextStop⟩ := Span.isEnd_inOrder a b
  cases op with
  | enclosing => exact ⟨_, _, hstart, hnextStop, rfl⟩
  | gap => exact ⟨_, _, hstop, hnextStart, rfl⟩
  | inner =>
      by_cases h : a.start ≤ b.start
      · exact ⟨a.start, b.start, by simp [IsEnd], by simp [IsEnd],
          by simp [answer, Span.inner, h]⟩
      · exact ⟨b.stop, a.stop, by simp [IsEnd], by simp [IsEnd],
          by simp [answer, Span.inner, h]⟩
  | overlaps => exact absurd rfl hop

theorem ne_overlaps_of_answer_span {op : PairOp} {a b s : Span}
    (h : op.answer a b = .ok (.span s)) : op ≠ .overlaps := by
  rintro rfl
  simp [answer] at h

theorem ne_overlaps_of_answer_error {op : PairOp} {a b : Span} {e : Span.Negative}
    (h : op.answer a b = .error e) : op ≠ .overlaps := by
  rintro rfl
  simp [answer] at h

/-- Only what lies between or inside two spans can be impossible. -/
theorem gap_or_inner_of_answer_error {op : PairOp} {a b : Span} {e : Span.Negative}
    (h : op.answer a b = .error e) : op = .gap ∨ op = .inner := by
  cases op with
  | enclosing => simp [answer, Span.enclosing_eq, Except.map] at h
  | gap => exact Or.inl rfl
  | inner => exact Or.inr rfl
  | overlaps => simp [answer] at h

/-- Both ends of a combination are ends of the pair. -/
theorem isEnd_of_answer {op : PairOp} {a b s : Span}
    (h : op.answer a b = .ok (.span s)) :
    IsEnd a b s.start ∧ IsEnd a b s.stop := by
  obtain ⟨first, last, hfirst, hlast, heq⟩ :=
    answer_eq_between (ne_overlaps_of_answer_span h) a b
  rw [heq] at h
  cases hbetween : Span.between first last with
  | error e => simp [hbetween, Except.map] at h
  | ok s' =>
      obtain rfl : s' = s := by simpa [hbetween, Except.map] using h
      obtain ⟨hle, rfl⟩ := Span.between_eq_ok_iff.mp hbetween
      exact ⟨hfirst, by rwa [Span.stop_mk_sub hle]⟩

/-- What makes a combination impossible is that one end of the pair lies before
another. -/
theorem exists_isEnd_of_answer_error {op : PairOp} {a b : Span}
    {e : Span.Negative} (h : op.answer a b = .error e) :
    ∃ first last, IsEnd a b first ∧ IsEnd a b last ∧ last < first ∧
      e = ⟨.length, (last : Int) - first⟩ := by
  obtain ⟨first, last, hfirst, hlast, heq⟩ :=
    answer_eq_between (ne_overlaps_of_answer_error h) a b
  rw [heq] at h
  cases hbetween : Span.between first last with
  | ok s => simp [hbetween, Except.map] at h
  | error e' =>
      obtain rfl : e' = e := by simpa [hbetween, Except.map] using h
      exact ⟨first, last, hfirst, hlast, Span.between_eq_error_iff.mp hbetween⟩

variable {op : PairOp} {a b : Span} {n : Nat}

/-- A combination ends below every bound on the ends of the pair. -/
theorem stop_lt_of_answer {s : Span} (h : op.answer a b = .ok (.span s))
    (ha : a.stop < n) (hb : b.stop < n) : s.stop < n :=
  (isEnd_of_answer h).2.lt ha hb

/-- The number that makes a combination impossible is within every bound on the
ends of the pair. -/
theorem natAbs_lt_of_answer_error {e : Span.Negative}
    (h : op.answer a b = .error e) (ha : a.stop < n) (hb : b.stop < n) :
    e.value.natAbs < n := by
  obtain ⟨first, last, hfirst, -, hlt, rfl⟩ := exists_isEnd_of_answer_error h
  have hbound := hfirst.lt ha hb
  simp only
  omega

end PairOp

end SourceSpans
