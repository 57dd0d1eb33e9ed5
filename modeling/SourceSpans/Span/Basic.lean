/-!
# Spans

A span is a half-open range of offsets into a source text, given by where it starts
and how long it is.  Two spans are put in order by their starts alone; what lies
around, between and inside the pair is then read off the four ends, so a combination
may be impossible: there is no span from an offset back to an earlier one.
-/

namespace SourceSpans

/-- The offsets from `start` up to but not including `start + length`. -/
structure Span where
  start : Nat
  length : Nat
  deriving DecidableEq

namespace Span

/-- The two numbers that make a span. -/
inductive Field where
  | start
  | length
  deriving DecidableEq

/-- A number that was asked for as the start or the length of a span although
it is negative. -/
structure Negative where
  field : Field
  value : Int
  deriving DecidableEq

/-- The span of two integers; the start is judged before the length. -/
def ofInts (start length : Int) : Except Negative Span :=
  if start < 0 then .error ⟨.start, start⟩
  else if length < 0 then .error ⟨.length, length⟩
  else .ok ⟨start.toNat, length.toNat⟩

/-- The first offset after the span. -/
def stop (s : Span) : Nat := s.start + s.length

/-- The span from one offset up to another, which must not lie before it. -/
def between (first last : Nat) : Except Negative Span :=
  ofInts first ((last : Int) - first)

/-- A span that holds no offset. -/
def IsPoint (s : Span) : Prop := s.length = 0

instance (s : Span) : Decidable s.IsPoint :=
  inferInstanceAs (Decidable (s.length = 0))

/-- An offset belongs to a span when it lies in its half-open range. -/
instance : Membership Int Span where
  mem s x := (s.start : Int) ≤ x ∧ x < (s.stop : Int)

theorem mem_iff {x : Int} {s : Span} :
    x ∈ s ↔ (s.start : Int) ≤ x ∧ x < (s.stop : Int) := Iff.rfl

instance (x : Int) (s : Span) : Decidable (x ∈ s) :=
  decidable_of_iff _ mem_iff.symm

theorem ofInts_natCast (start length : Nat) :
    ofInts start length = .ok ⟨start, length⟩ := by
  have hstart : ¬((start : Int) < 0) := by omega
  have hlength : ¬((length : Int) < 0) := by omega
  simp only [ofInts, if_neg hstart, if_neg hlength]
  rfl

theorem between_of_le {first last : Nat} (h : first ≤ last) :
    between first last = .ok ⟨first, last - first⟩ := by
  have hstart : ¬((first : Int) < 0) := by omega
  have hlength : ¬((last : Int) - first < 0) := by omega
  simp only [between, ofInts, if_neg hstart, if_neg hlength]
  congr 2
  omega

theorem between_of_lt {first last : Nat} (h : last < first) :
    between first last = .error ⟨.length, (last : Int) - first⟩ := by
  have hstart : ¬((first : Int) < 0) := by omega
  have hlength : (last : Int) - first < 0 := by omega
  simp only [between, ofInts, if_neg hstart, if_pos hlength]

/-! ## Combining two spans -/

/-- The pair with the earlier start first. -/
def inOrder (a b : Span) : Span × Span :=
  if a.start ≤ b.start then (a, b) else (b, a)

/-- From the start of the earlier span to the end of the later one.  The
later-starting span decides the end, even when the earlier one reaches
further. -/
def enclosing (a b : Span) : Except Negative Span :=
  between (inOrder a b).1.start (inOrder a b).2.stop

/-- What lies strictly between the two spans. -/
def gap (a b : Span) : Except Negative Span :=
  between (inOrder a b).1.stop (inOrder a b).2.start

/-- From the start of `a` up to the start of `b`; when `b` starts first, from
the end of `b` to the end of `a`. -/
def inner (a b : Span) : Except Negative Span :=
  if a.start ≤ b.start then between a.start b.start
  else between b.stop a.stop

/-- Whether the two spans share an offset; a point shares none. -/
def overlaps (a b : Span) : Bool :=
  a.length != 0 && b.length != 0 &&
    (decide ((inOrder a b).1.start ≤ (inOrder a b).2.start) &&
      decide ((inOrder a b).2.start < (inOrder a b).1.stop))

theorem inOrder_of_le {a b : Span} (h : a.start ≤ b.start) :
    inOrder a b = (a, b) := if_pos h

theorem inOrder_of_lt {a b : Span} (h : b.start < a.start) :
    inOrder a b = (b, a) := if_neg (by omega)

theorem inOrder_start_le (a b : Span) :
    (inOrder a b).1.start ≤ (inOrder a b).2.start := by
  by_cases h : a.start ≤ b.start
  · rw [inOrder_of_le h]
    exact h
  · have hlt : b.start < a.start := by omega
    rw [inOrder_of_lt hlt]
    exact Nat.le_of_lt hlt

/-- Of spans in order the later one does not start before the earlier one, so where
the earlier one ends decides whether they share an offset. -/
theorem overlaps_eq (a b : Span) :
    overlaps a b = (a.length != 0 && b.length != 0 &&
      decide ((inOrder a b).2.start < (inOrder a b).1.stop)) := by
  rw [overlaps, decide_eq_true (inOrder_start_le a b), Bool.true_and]

/-- There always is a span around two spans: the end of the later one does not
lie before the start of the earlier one. -/
theorem enclosing_eq (a b : Span) :
    enclosing a b =
      .ok ⟨(inOrder a b).1.start,
        (inOrder a b).2.stop - (inOrder a b).1.start⟩ := by
  apply between_of_le
  exact Nat.le_trans (inOrder_start_le a b) (Nat.le_add_right _ _)

end Span

/-- The questions that can be asked about a pair of spans. -/
inductive PairOp where
  | enclosing
  | gap
  | inner
  | overlaps
  deriving DecidableEq

inductive Finding where
  | span (s : Span)
  | truth (b : Bool)
  deriving DecidableEq

def PairOp.answer (op : PairOp) (a b : Span) : Except Span.Negative Finding :=
  match op with
  | .enclosing => (Span.enclosing a b).map .span
  | .gap => (Span.gap a b).map .span
  | .inner => (Span.inner a b).map .span
  | .overlaps => .ok (.truth (Span.overlaps a b))

end SourceSpans
