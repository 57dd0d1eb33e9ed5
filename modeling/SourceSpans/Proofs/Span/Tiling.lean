import SourceSpans.Proofs.Span.Grouping
import Mathlib.Algebra.Ring.Nat
import Mathlib.Data.List.Count
import Mathlib.Data.List.Forall2

/-!
# Spans laid end to end

A list of spans tiles a span when each offset of the span lies in one of them
only, and in nothing else.  Spans that are laid end to end tile the span from the
first start to the last end; points may stand anywhere among them.  When nothing
in a sorted list overlaps, the spans and the gaps between neighbours can be laid
end to end, so together they tile the span around the list.
-/

namespace SourceSpans

namespace Span

/-! ## Shared offsets -/

/-- Two spans overlap exactly when they share an offset; the later start is one
of those that they share. -/
theorem overlaps_eq_true_iff {a b : Span} :
    overlaps a b = true ↔ ∃ x, x ∈ a ∧ x ∈ b := by
  by_cases h : a.start ≤ b.start
  · simp only [overlaps_eq, inOrder_of_le h, mem_iff, stop, Bool.and_eq_true, bne_iff_ne,
      decide_eq_true_eq]
    constructor
    · intro hcommon
      exact ⟨b.start, by omega⟩
    · rintro ⟨x, hx⟩
      omega
  · have hlt := Nat.lt_of_not_le h
    simp only [overlaps_eq, inOrder_of_lt hlt, mem_iff, stop, Bool.and_eq_true,
      bne_iff_ne, decide_eq_true_eq]
    constructor
    · intro hcommon
      exact ⟨a.start, by omega⟩
    · rintro ⟨x, hx⟩
      omega

/-- A span that ends before another starts does not overlap it, whichever of
the two is named first. -/
theorem not_overlaps_of_stop_le {a b : Span} (h : a.stop ≤ b.start) :
    overlaps a b = false ∧ overlaps b a = false := by
  have hnone : ∀ x, x ∈ a → x ∉ b := by
    intro x ha hb
    have hrangeA := mem_iff.mp ha
    have hrangeB := mem_iff.mp hb
    omega
  constructor
  · rw [← Bool.not_eq_true, overlaps_eq_true_iff]
    rintro ⟨x, ha, hb⟩
    exact hnone x ha hb
  · rw [← Bool.not_eq_true, overlaps_eq_true_iff]
    rintro ⟨x, hb, ha⟩
    exact hnone x ha hb

/-! ## Tilings -/

/-- The pieces make up the span: each offset of it lies in one piece only, no
piece has another offset, the lengths add up, and pieces at different places do
not overlap. -/
structure Tiles (r : Span) (pieces : List Span) : Prop where
  covers : ∀ x ∈ r, pieces.countP (x ∈ ·) = 1
  inside : ∀ p ∈ pieces, ∀ x ∈ p, x ∈ r
  sum_length : (pieces.map Span.length).sum = r.length
  apart : pieces.Pairwise fun p q => overlaps p q = false ∧ overlaps q p = false

theorem Tiles.perm {r : Span} {ps qs : List Span} (h : Tiles r ps) (hperm : ps.Perm qs) :
    Tiles r qs where
  covers x hx := by rw [← hperm.countP_eq, h.covers x hx]
  inside p hp := h.inside p (hperm.mem_iff.mpr hp)
  sum_length := by rw [← (hperm.map _).sum_nat, h.sum_length]
  apart := h.apart.perm hperm fun hpq => hpq.symm

/-- The spans stand end to end from one offset to another. -/
inductive EndToEnd : Nat → List Span → Nat → Prop
  | nil (n : Nat) : EndToEnd n [] n
  | cons {m n : Nat} {s : Span} {rest : List Span} (hstart : s.start = m)
      (hrest : EndToEnd s.stop rest n) : EndToEnd m (s :: rest) n

namespace EndToEnd

variable {m n : Nat} {ps : List Span}

theorem add_sum_length (h : EndToEnd m ps n) : m + (ps.map Span.length).sum = n := by
  induction h with
  | nil n => rfl
  | @cons m n s rest hstart _ ih =>
      rw [← ih, List.map_cons, List.sum_cons, stop, hstart, Nat.add_assoc]

theorem bounds (h : EndToEnd m ps n) {p : Span} (hp : p ∈ ps) :
    m ≤ p.start ∧ p.stop ≤ n := by
  induction h with
  | nil n => simp at hp
  | @cons m n s rest hstart hrest ih =>
      have hlength := start_le_stop s
      have htotal := hrest.add_sum_length
      rcases List.mem_cons.mp hp with rfl | htail
      · omega
      · have hbounds := ih htail
        omega

theorem pairwise_stop_le (h : EndToEnd m ps n) :
    ps.Pairwise fun p q => p.stop ≤ q.start := by
  induction h with
  | nil n => exact .nil
  | cons hstart hrest ih => exact .cons (fun q hq => (hrest.bounds hq).1) ih

theorem countP_eq_zero (h : EndToEnd m ps n) {x : Int} (hx : x < m) :
    ps.countP (x ∈ ·) = 0 := by
  rw [List.countP_eq_zero]
  intro p hp
  have hstart := (h.bounds hp).1
  rw [decide_eq_true_eq, mem_iff]
  omega

/-- Each offset between the two lies in one piece: in the first one, or else
beyond it, where the others stand end to end. -/
theorem countP_eq_one (h : EndToEnd m ps n) {x : Int} (hm : m ≤ x) (hn : x < n) :
    ps.countP (x ∈ ·) = 1 := by
  induction h with
  | nil n => omega
  | @cons m n s rest hstart hrest ih =>
      by_cases hx : x < s.stop
      · have hmem : x ∈ s := mem_iff.mpr (by omega)
        rw [List.countP_cons_of_pos (by simpa using hmem), hrest.countP_eq_zero hx]
      · have hbeyond := Int.not_lt.mp hx
        have hnot : x ∉ s := fun hmem => hx (mem_iff.mp hmem).2
        rw [List.countP_cons_of_neg (by simpa using hnot), ih hbeyond hn]

/-- Spans that stand end to end tile the span that they fill. -/
theorem tiles {r : Span} (h : EndToEnd r.start ps r.stop) : Tiles r ps where
  covers x hx := h.countP_eq_one (mem_iff.mp hx).1 (mem_iff.mp hx).2
  inside p hp x hx := by
    have hbounds := h.bounds hp
    have hrange := mem_iff.mp hx
    exact mem_iff.mpr (by omega)
  sum_length := Nat.add_left_cancel h.add_sum_length
  apart := h.pairwise_stop_le.imp not_overlaps_of_stop_le

end EndToEnd

/-! ## Spans and the gaps between them -/

theorem gap_eq_ok_iff {a b g : Span} (h : a.start ≤ b.start) :
    gap a b = .ok g ↔ a.stop ≤ b.start ∧ g = ⟨a.stop, b.start - a.stop⟩ := by
  rw [gap, inOrder_of_le h, between_eq_ok_iff]

/-- The spans are the gaps between each two neighbours of the list. -/
def AreGaps (gs ss : List Span) : Prop :=
  List.Forall₂ (fun pair g => gap pair.1 pair.2 = .ok g) (ss.zip ss.tail) gs

/-- The spans of a sorted list and the gaps between them can be laid end to end.
The induction is on the list; a gap ends where the next span starts. -/
theorem AreGaps.exists_endToEnd {first : Span} {rest gs : List Span}
    (hgaps : AreGaps gs (first :: rest)) (hsorted : StartSorted (first :: rest)) :
    ∃ ps : List Span, ps.Perm (first :: rest ++ gs) ∧ EndToEnd first.start ps
      ((first :: rest).getLast (List.cons_ne_nil first rest)).stop := by
  induction rest generalizing first gs with
  | nil =>
      obtain rfl : gs = [] := List.forall₂_nil_left_iff.mp hgaps
      exact ⟨[first], .refl _, .cons rfl (.nil _)⟩
  | cons second rest ih =>
      obtain ⟨hfirst, hrest⟩ := List.pairwise_cons.mp hsorted
      obtain ⟨g, others, hg, hothers, rfl⟩ := List.forall₂_cons_left_iff.mp hgaps
      obtain ⟨hle, heq⟩ := (gap_eq_ok_iff (hfirst second List.mem_cons_self)).mp hg
      have hstart : g.start = first.stop := by rw [heq]
      have hstop : g.stop = second.start := by rw [heq, stop_mk_sub hle]
      obtain ⟨ps, hperm, hps⟩ := ih hothers hrest
      refine ⟨first :: g :: ps, ?_, ?_⟩
      · exact .cons first ((hperm.cons g).trans List.perm_middle.symm)
      · exact .cons rfl (.cons hstart (by rwa [hstop]))

theorem AreGaps.tiles {first : Span} {rest gs : List Span}
    (hgaps : AreGaps gs (first :: rest)) (hsorted : StartSorted (first :: rest)) :
    Tiles (hull first ((first :: rest).getLast (List.cons_ne_nil first rest)))
      (first :: rest ++ gs) := by
  have hends := hsorted.head_le_stop (List.cons_ne_nil first rest)
  obtain ⟨ps, hperm, hps⟩ := hgaps.exists_endToEnd hsorted
  rw [← hull_stop hends] at hps
  exact (EndToEnd.tiles hps).perm hperm

/-! ## Pairs in either order -/

section Pair

variable {a b g : Span}

theorem inOrder_comm (h : a.start ≠ b.start) : inOrder a b = inOrder b a := by
  rcases Nat.lt_or_gt_of_ne h with hlt | hgt
  · rw [inOrder_of_le (Nat.le_of_lt hlt), inOrder_of_lt hlt]
  · rw [inOrder_of_lt hgt, inOrder_of_le (Nat.le_of_lt hgt)]

theorem enclosing_comm (h : a.start ≠ b.start) : enclosing a b = enclosing b a := by
  rw [enclosing, enclosing, inOrder_comm h]

theorem gap_comm (h : a.start ≠ b.start) : gap a b = gap b a := by
  rw [gap, gap, inOrder_comm h]

theorem tiles_of_gap (h : a.start ≤ b.start) (hg : gap a b = .ok g) :
    Tiles (hull a b) [a, b, g] := by
  have hsorted : StartSorted [a, b] := List.pairwise_pair.mpr h
  have hgaps : AreGaps [g] [a, b] := .cons hg .nil
  exact hgaps.tiles hsorted

/-- Two spans that start apart and the gap between them tile the span around
them, in whatever order they are given. -/
theorem exists_tiles_of_gap (hne : a.start ≠ b.start) (hg : gap a b = .ok g) :
    ∃ r, enclosing a b = .ok r ∧ Tiles r [a, b, g] := by
  rcases Nat.lt_or_gt_of_ne hne with hlt | hgt
  · have hle := Nat.le_of_lt hlt
    exact ⟨hull a b, enclosing_of_le hle, tiles_of_gap hle hg⟩
  · have hle := Nat.le_of_lt hgt
    rw [gap_comm hne] at hg
    rw [enclosing_comm hne]
    exact ⟨hull b a, enclosing_of_le hle, (tiles_of_gap hle hg).perm (.swap a b [g])⟩

end Pair

/-- The spans of a sorted list in which each two neighbours have a gap tile,
together with the gaps, the span that the list is enclosed by from the left.
For two spans that start apart the order in which they are named makes no
difference, neither to the gap nor to the span around them. -/
theorem gaps_tile_enclosing :
    (∀ (first : Span) (rest gs : List Span), StartSorted (first :: rest) →
      AreGaps gs (first :: rest) →
      ∃ r, rest.foldlM enclosing first = .ok r ∧ Tiles r (first :: rest ++ gs)) ∧
    (∀ a b g : Span, a.start ≠ b.start → (gap a b = .ok g ∨ gap b a = .ok g) →
      gap a b = .ok g ∧ gap b a = .ok g ∧
        ∃ r, enclosing a b = .ok r ∧ enclosing b a = .ok r ∧ Tiles r [a, b, g]) := by
  constructor
  · intro first rest gs hsorted hgaps
    exact ⟨_, hsorted.foldlM_enclosing (List.cons_ne_nil first rest),
      hgaps.tiles hsorted⟩
  · intro a b g hne hg
    rw [← gap_comm hne, or_self] at hg
    obtain ⟨r, hr, htiles⟩ := exists_tiles_of_gap hne hg
    exact ⟨hg, gap_comm hne ▸ hg, r, hr, enclosing_comm hne ▸ hr, htiles⟩

/-- Points at the edge of a span take no room: two of them and the empty gaps
around them stand between the two spans that hold offsets. -/
theorem gaps_tile_enclosing_points :
    StartSorted [⟨0, 3⟩, ⟨3, 0⟩, ⟨3, 0⟩, ⟨5, 2⟩] ∧
      AreGaps [⟨3, 0⟩, ⟨3, 0⟩, ⟨3, 2⟩] [⟨0, 3⟩, ⟨3, 0⟩, ⟨3, 0⟩, ⟨5, 2⟩] ∧
      ∃ r, [⟨3, 0⟩, ⟨3, 0⟩, ⟨5, 2⟩].foldlM enclosing ⟨0, 3⟩ = .ok r ∧
        Tiles r [⟨0, 3⟩, ⟨3, 0⟩, ⟨3, 0⟩, ⟨5, 2⟩, ⟨3, 0⟩, ⟨3, 0⟩, ⟨3, 2⟩] := by
  have hsorted : StartSorted [⟨0, 3⟩, ⟨3, 0⟩, ⟨3, 0⟩, ⟨5, 2⟩] := by decide
  have hgaps : AreGaps [⟨3, 0⟩, ⟨3, 0⟩, ⟨3, 2⟩] [⟨0, 3⟩, ⟨3, 0⟩, ⟨3, 0⟩, ⟨5, 2⟩] :=
    .cons rfl (.cons rfl (.cons rfl .nil))
  exact ⟨hsorted, hgaps, gaps_tile_enclosing.1 _ _ _ hsorted hgaps⟩

end Span

end SourceSpans
