import SourceSpans.Proofs.Span.Tiling

/-!
# Pairs of spans

Spans that share an offset leave no room between them, and neither do a span and
a point at one of its offsets, although these share none.  The inside of a pair
and the exclusive span together fill the span around the pair.  To name the two in
the other order changes the span around them and the gap between them only when
they start together and differ in length.  It changes the inside of the pair unless
they start together or both are points.
-/

namespace SourceSpans

namespace Span

variable {a b p q r g : Span}

/-! ## Room between two spans -/

theorem overlaps_comm (a b : Span) : overlaps a b = overlaps b a := by
  rw [Bool.eq_iff_iff, overlaps_eq_true_iff, overlaps_eq_true_iff]
  simp only [and_comm]

theorem start_lt_stop_iff_not_isPoint : p.start < p.stop ↔ ¬p.IsPoint := by
  unfold stop IsPoint
  omega

theorem IsPoint.not_mem (h : p.IsPoint) (x : Int) : x ∉ p := by
  intro hx
  have hrange := mem_iff.mp hx
  have hlt : p.start < p.stop := by omega
  exact start_lt_stop_iff_not_isPoint.mp hlt h

theorem not_overlaps_of_isPoint (h : a.IsPoint ∨ b.IsPoint) : overlaps a b = false := by
  rw [← Bool.not_eq_true, overlaps_eq_true_iff]
  rintro ⟨x, ha, hb⟩
  rcases h with hpoint | hpoint
  · exact hpoint.not_mem x ha
  · exact hpoint.not_mem x hb

/-- The point lies at an offset of the span. -/
def Swallows (p point : Span) : Prop :=
  point.IsPoint ∧ p.start ≤ point.start ∧ point.start < p.stop

/-- A span that starts before an earlier one ends shares its first offset with
it, unless it is a point and has none. -/
theorem start_lt_stop_iff_of_le (h : p.start ≤ q.start) :
    q.start < p.stop ↔ overlaps p q = true ∨ Swallows p q := by
  constructor
  · intro hlt
    by_cases hpoint : q.IsPoint
    · exact .inr ⟨hpoint, h, hlt⟩
    · have hstop := start_lt_stop_iff_not_isPoint.mpr hpoint
      have hp : (q.start : Int) ∈ p := mem_iff.mpr (by omega)
      have hq : (q.start : Int) ∈ q := mem_iff.mpr (by omega)
      exact .inl (overlaps_eq_true_iff.mpr ⟨q.start, hp, hq⟩)
  · rintro (hoverlaps | ⟨-, -, hlt⟩)
    · obtain ⟨x, hp, hq⟩ := overlaps_eq_true_iff.mp hoverlaps
      have hstop := (mem_iff.mp hp).2
      have hstart := (mem_iff.mp hq).1
      omega
    · exact hlt

theorem gap_eq_error_iff {e : Negative} (h : p.start ≤ q.start) :
    gap p q = .error e ↔
      q.start < p.stop ∧ e = ⟨.length, (q.start : Int) - p.stop⟩ := by
  rw [gap, inOrder_of_le h, between_eq_error_iff]

/-- A gap is refused exactly when the later span starts too early. -/
theorem exists_gap_error_iff (h : p.start ≤ q.start) :
    (∃ e, gap p q = .error e) ↔ overlaps p q = true ∨ Swallows p q := by
  rw [← start_lt_stop_iff_of_le h]
  constructor
  · rintro ⟨e, he⟩
    exact ((gap_eq_error_iff h).mp he).1
  · intro hlt
    exact ⟨_, (gap_eq_error_iff h).mpr ⟨hlt, rfl⟩⟩

theorem mem_gap_iff (h : p.start ≤ q.start) (hg : gap p q = .ok g) {x : Int} :
    x ∈ g ↔ (p.stop : Int) ≤ x ∧ x < (q.start : Int) := by
  obtain ⟨hle, rfl⟩ := (gap_eq_ok_iff h).mp hg
  rw [mem_iff, stop_mk_sub hle]

/-- Putting a pair in order changes neither its gap nor whether it overlaps. -/
theorem gap_and_overlaps_of_ordered
    (h : (p, q) = if a.start ≤ b.start then (a, b) else (b, a)) :
    p.start ≤ q.start ∧ gap a b = gap p q ∧ overlaps a b = overlaps p q := by
  by_cases hle : a.start ≤ b.start
  · rw [if_pos hle] at h
    obtain ⟨rfl, rfl⟩ := Prod.mk.inj h
    exact ⟨hle, rfl, rfl⟩
  · rw [if_neg hle] at h
    obtain ⟨rfl, rfl⟩ := Prod.mk.inj h
    exact ⟨by omega, gap_comm (by omega), overlaps_comm _ _⟩

/-- Two spans overlap exactly when they share an offset, whichever is named
first, and so a point overlaps nothing.  The gap of a pair is refused exactly
when the two overlap or the earlier one has an offset where the later one is a
point.  The fault tells by how much the later span starts too early; otherwise
the gap has the offsets from the end of the earlier span to the start of the
later one. -/
theorem gap_refused_iff (a b : Span) :
    (overlaps a b = true ↔ ∃ x : Int, x ∈ a ∧ x ∈ b) ∧
      overlaps a b = overlaps b a ∧
      (a.IsPoint ∨ b.IsPoint → overlaps a b = false) ∧
      ∀ p q : Span, (p, q) = (if a.start ≤ b.start then (a, b) else (b, a)) →
        ((∃ e, gap a b = .error e) ↔ overlaps a b = true ∨ Swallows p q) ∧
          (∀ e, gap a b = .error e → e = ⟨.length, (q.start : Int) - p.stop⟩) ∧
          ∀ g, gap a b = .ok g →
            ∀ x : Int, x ∈ g ↔ (p.stop : Int) ≤ x ∧ x < (q.start : Int) := by
  refine ⟨overlaps_eq_true_iff, overlaps_comm a b, not_overlaps_of_isPoint, ?_⟩
  intro p q hordered
  obtain ⟨hle, hgap, hoverlaps⟩ := gap_and_overlaps_of_ordered hordered
  rw [hgap, hoverlaps]
  refine ⟨exists_gap_error_iff hle, ?_, ?_⟩
  · intro e he
    exact ((gap_eq_error_iff hle).mp he).2
  · intro g hg x
    exact mem_gap_iff hle hg

/-- A point inside a span overlaps nothing, yet there is no gap between the two,
and it starts three offsets too early for one. -/
theorem gap_refused_iff_swallowed :
    Swallows ⟨2, 5⟩ ⟨4, 0⟩ ∧ overlaps ⟨4, 0⟩ ⟨2, 5⟩ = false ∧
      gap ⟨4, 0⟩ ⟨2, 5⟩ = .error ⟨.length, -3⟩ := by
  have hswallows : Swallows ⟨2, 5⟩ ⟨4, 0⟩ := ⟨rfl, by decide, by decide⟩
  obtain ⟨-, -, hpoint, hgap⟩ := gap_refused_iff ⟨4, 0⟩ ⟨2, 5⟩
  obtain ⟨hrefused, hfault, -⟩ := hgap ⟨2, 5⟩ ⟨4, 0⟩ rfl
  obtain ⟨e, he⟩ := hrefused.mpr (.inr hswallows)
  obtain rfl := hfault e he
  exact ⟨hswallows, hpoint (.inl rfl), he⟩

/-! ## The inside of a pair -/

theorem inner_of_le (h : a.start ≤ b.start) :
    inner a b = .ok ⟨a.start, b.start - a.start⟩ := by
  rw [inner, if_pos h, between_of_le h]

theorem inner_of_lt (h : b.start < a.start) : inner a b = between b.stop a.stop :=
  if_neg (Nat.not_le.mpr h)

theorem inner_eq_error_iff {e : Negative} :
    inner a b = .error e ↔ b.start < a.start ∧ a.stop < b.stop ∧
      e = ⟨.length, (a.stop : Int) - b.stop⟩ := by
  by_cases h : a.start ≤ b.start
  · rw [inner_of_le h]
    simp [Nat.not_lt.mpr h]
  · have hlt := Nat.lt_of_not_le h
    rw [inner_of_lt hlt, between_eq_error_iff]
    simp [hlt]

theorem tiles_of_stop_eq (h : p.stop = q.start) : Tiles (hull p q) [p, q] := by
  have hends : p.start ≤ q.stop :=
    Nat.le_trans (start_le_stop p) (h ▸ start_le_stop q)
  apply EndToEnd.tiles
  rw [hull_stop hends]
  exact .cons rfl (.cons h.symm (.nil _))

/-- The inside of a pair stands before the exclusive span, or behind it when the
exclusive one starts first. -/
theorem exists_tiles_of_inner (h : inner a b = .ok r) :
    ∃ w, enclosing a b = .ok w ∧ Tiles w [r, b] := by
  by_cases hle : a.start ≤ b.start
  · rw [inner_of_le hle] at h
    obtain rfl := Except.ok.inj h
    exact ⟨hull a b, enclosing_of_le hle, tiles_of_stop_eq (stop_mk_sub hle)⟩
  · have hlt := Nat.lt_of_not_le hle
    rw [inner_of_lt hlt] at h
    obtain ⟨hstops, rfl⟩ := between_eq_ok_iff.mp h
    have htiles : Tiles (hull b ⟨b.stop, a.stop - b.stop⟩) [b, ⟨b.stop, a.stop - b.stop⟩] :=
      tiles_of_stop_eq rfl
    rw [hull, stop_mk_sub hstops] at htiles
    have henclosing : enclosing a b = .ok (hull b a) := by
      rw [enclosing_comm (Nat.ne_of_gt hlt), enclosing_of_le (Nat.le_of_lt hlt)]
    exact ⟨hull b a, henclosing, htiles.perm (.swap _ _ [])⟩

/-- There is no inside of a pair exactly when the exclusive span starts first and
ends last.  Otherwise the inside and the exclusive span tile the span around the
pair, whichever of the two starts first. -/
theorem inner_tiles_enclosing (a b : Span) :
    (∀ e, inner a b = .error e ↔ b.start < a.start ∧ a.stop < b.stop ∧
        e = ⟨.length, (a.stop : Int) - b.stop⟩) ∧
      ∀ r, inner a b = .ok r → ∃ w, enclosing a b = .ok w ∧ Tiles w [r, b] :=
  ⟨fun _ => inner_eq_error_iff, fun _ => exists_tiles_of_inner⟩

/-- The exclusive span starts first, and the inside of the pair follows it. -/
theorem inner_tiles_enclosing_behind :
    inner ⟨3, 6⟩ ⟨1, 4⟩ = .ok ⟨5, 4⟩ ∧
      ∃ w, enclosing ⟨3, 6⟩ ⟨1, 4⟩ = .ok w ∧ Tiles w [⟨5, 4⟩, ⟨1, 4⟩] := by
  have hinner : inner ⟨3, 6⟩ ⟨1, 4⟩ = .ok ⟨5, 4⟩ := rfl
  exact ⟨hinner, (inner_tiles_enclosing _ _).2 _ hinner⟩

/-! ## The order of a pair -/

/-- What is found between two offsets tells how far apart they are, and where it
starts when it is a span. -/
theorem between_eq_between_iff {first last first' last' : Nat} :
    between first last = between first' last' ↔
      (last : Int) - first = (last' : Int) - first' ∧ (first ≤ last → first = first') := by
  by_cases hle : first ≤ last
  · rw [between_of_le hle, eq_comm, between_eq_ok_iff, mk.injEq]
    omega
  · rw [between_of_lt (Nat.lt_of_not_le hle), eq_comm, between_eq_error_iff,
      Negative.mk.injEq, eq_self, true_and]
    omega

/-- Of spans that start together the one named last decides the end. -/
theorem enclosing_comm_iff :
    enclosing a b = enclosing b a ↔ a.start ≠ b.start ∨ a.length = b.length := by
  by_cases h : a.start = b.start
  · rw [enclosing, enclosing, inOrder_of_le (Nat.le_of_eq h),
      inOrder_of_le (Nat.le_of_eq h.symm), between_eq_between_iff]
    dsimp only [stop]
    omega
  · simp [h, enclosing_comm h]

/-- Of spans that start together the one named first decides where a gap would
have to start. -/
theorem gap_comm_iff :
    gap a b = gap b a ↔ a.start ≠ b.start ∨ a.length = b.length := by
  by_cases h : a.start = b.start
  · rw [gap, gap, inOrder_of_le (Nat.le_of_eq h),
      inOrder_of_le (Nat.le_of_eq h.symm), between_eq_between_iff]
    dsimp only [stop]
    omega
  · simp [h, gap_comm h]

/-- Behind a span there is the same as before the other one only when both are
points. -/
theorem inner_comm_iff_of_lt (h : a.start < b.start) :
    inner a b = inner b a ↔ a.IsPoint ∧ b.IsPoint := by
  rw [inner_of_le (Nat.le_of_lt h), inner_of_lt h, eq_comm, between_eq_ok_iff, mk.injEq]
  unfold IsPoint stop
  omega

theorem inner_comm_iff :
    inner a b = inner b a ↔ a.start = b.start ∨ a.IsPoint ∧ b.IsPoint := by
  rcases Nat.lt_trichotomy a.start b.start with hlt | heq | hgt
  · rw [inner_comm_iff_of_lt hlt]
    simp [Nat.ne_of_lt hlt]
  · rw [inner_of_le (Nat.le_of_eq heq), inner_of_le (Nat.le_of_eq heq.symm), heq]
    simp
  · rw [eq_comm, inner_comm_iff_of_lt hgt, and_comm]
    simp [Nat.ne_of_gt hgt]

/-- When the order in which two spans are named makes no difference, neither to
the span that is found nor to what is wrong if there is none. -/
theorem exchange_iff (a b : Span) :
    (enclosing a b = enclosing b a ↔ a.start ≠ b.start ∨ a.length = b.length) ∧
      (gap a b = gap b a ↔ a.start ≠ b.start ∨ a.length = b.length) ∧
      (inner a b = inner b a ↔ a.start = b.start ∨ a.IsPoint ∧ b.IsPoint) :=
  ⟨enclosing_comm_iff, gap_comm_iff, inner_comm_iff⟩

/-- A point and a span that start together have a gap in one order only. -/
example : gap ⟨2, 0⟩ ⟨2, 3⟩ = .ok ⟨2, 0⟩ ∧
    gap ⟨2, 3⟩ ⟨2, 0⟩ = .error ⟨.length, -3⟩ := ⟨rfl, rfl⟩

end Span

end SourceSpans
