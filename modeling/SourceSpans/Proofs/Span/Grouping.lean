import Mathlib.Data.List.Pairwise
import Mathlib.Tactic.ByContra
import SourceSpans.Proofs.Span.Ends

/-!
# Enclosing many spans

Enclosing two spans keeps the start of the one and the end of the other, so it
matters in general how a list of spans is grouped when they are enclosed two at
a time.  It does not matter when the list is sorted by start.  Every group then
reaches from the start of its first span to the end of its last one, which need
not be the end that reaches furthest.
-/

namespace SourceSpans

namespace Span

/-- No span starts before one that stands ahead of it. -/
def StartSorted (ss : List Span) : Prop :=
  ss.Pairwise fun a b => a.start ≤ b.start

instance (ss : List Span) : Decidable (StartSorted ss) :=
  inferInstanceAs (Decidable (List.Pairwise _ ss))

/-- From the start of one span to the end of another. -/
def hull (first last : Span) : Span :=
  ⟨first.start, last.stop - first.start⟩

variable {a b first last : Span}

theorem hull_stop (h : first.start ≤ last.stop) :
    (hull first last).stop = last.stop := stop_mk_sub h

theorem mem_hull_iff (h : first.start ≤ last.stop) {x : Int} :
    x ∈ hull first last ↔ (first.start : Int) ≤ x ∧ x < (last.stop : Int) := by
  rw [mem_iff, hull_stop h]
  rfl

theorem enclosing_of_le (h : a.start ≤ b.start) :
    enclosing a b = .ok (hull a b) := by
  rw [enclosing_eq, inOrder_of_le h]
  rfl

/-- Of two groups only the first start and the last end are kept. -/
theorem enclosing_hull {first' last' : Span} (hstarts : first.start ≤ first'.start)
    (h : first'.start ≤ last'.stop) :
    enclosing (hull first last) (hull first' last') = .ok (hull first last') := by
  have horder : (hull first last).start ≤ (hull first' last').start := hstarts
  rw [enclosing_of_le horder, hull, hull_stop h]
  rfl

/-! ## The ends of a sorted list -/

section Sorted

variable {ss : List Span} {s : Span}

theorem StartSorted.head_le (h : StartSorted ss) (hne : ss ≠ []) (hs : s ∈ ss) :
    (ss.head hne).start ≤ s.start :=
  List.Pairwise.rel_head_of_rel_head_head h hs (Nat.le_refl _)

theorem StartSorted.le_getLast (h : StartSorted ss) (hne : ss ≠ []) (hs : s ∈ ss) :
    s.start ≤ (ss.getLast hne).start :=
  List.Pairwise.rel_getLast_of_rel_getLast_getLast h hs (Nat.le_refl _)

theorem StartSorted.head_le_stop (h : StartSorted ss) (hne : ss ≠ []) :
    (ss.head hne).start ≤ (ss.getLast hne).stop :=
  Nat.le_trans (h.le_getLast hne (List.head_mem hne)) (start_le_stop _)

/-- The span around a sorted list has all offsets of its members exactly when
none of them ends after the last one.  One that does has an offset outside,
since it starts no later than the last one and so is no point. -/
theorem StartSorted.subset_hull_iff (h : StartSorted ss) (hne : ss ≠ []) :
    (∀ s ∈ ss, ∀ x ∈ s, x ∈ hull (ss.head hne) (ss.getLast hne)) ↔
      ∀ s ∈ ss, s.stop ≤ (ss.getLast hne).stop := by
  have hends := h.head_le_stop hne
  constructor
  · intro hsubset s hs
    by_contra hbeyond
    have hstart := h.le_getLast hne hs
    have hlast := start_le_stop (ss.getLast hne)
    have hoffset : (s.stop : Int) - 1 ∈ s := mem_iff.mpr (by omega)
    have hinside := (mem_hull_iff hends).mp (hsubset s hs _ hoffset)
    omega
  · intro hstops s hs x hx
    have hstart := h.head_le hne hs
    have hstop := hstops s hs
    have hrange := mem_iff.mp hx
    exact (mem_hull_iff hends).mpr (by omega)

end Sorted

end Span

open SourceSpans.Span

/-- A way of putting spans together two groups at a time. -/
inductive Grouping where
  | one (s : Span)
  | join (left right : Grouping)

namespace Grouping

/-- The spans from left to right. -/
def spans : Grouping → List Span
  | .one s => [s]
  | .join left right => left.spans ++ right.spans

/-- The span around a grouping, by one call for each two groups. -/
def enclosing : Grouping → Except Negative Span
  | .one s => .ok s
  | .join left right => do
      let a ← left.enclosing
      let b ← right.enclosing
      Span.enclosing a b

theorem spans_ne_nil (g : Grouping) : g.spans ≠ [] := by
  induction g with
  | one s => exact List.cons_ne_nil s []
  | join left right ihLeft _ => exact List.append_ne_nil_of_left_ne_nil ihLeft _

/-- Each group of a sorted list reaches from the start of its first span to the
end of its last one.  The induction is on the grouping: the two parts of a group
are sorted themselves, and the left one starts no later. -/
theorem enclosing_eq_hull (g : Grouping) (h : StartSorted g.spans) :
    g.enclosing =
      .ok (hull (g.spans.head g.spans_ne_nil) (g.spans.getLast g.spans_ne_nil)) := by
  induction g with
  | one s =>
      have hlength : s.stop - s.start = s.length := Nat.add_sub_cancel_left _ _
      simp [enclosing, spans, hull, hlength]
  | join left right ihLeft ihRight =>
      obtain ⟨hleft, hright, hcross⟩ := List.pairwise_append.mp h
      have hstarts : (left.spans.head left.spans_ne_nil).start ≤
          (right.spans.head right.spans_ne_nil).start :=
        hcross _ (List.head_mem _) _ (List.head_mem _)
      have hends := StartSorted.head_le_stop hright right.spans_ne_nil
      simp only [enclosing, ihLeft hleft, ihRight hright, bind, Except.bind]
      rw [enclosing_hull hstarts hends]
      simp only [spans, List.head_append_of_ne_nil left.spans_ne_nil,
        List.getLast_append_right right.spans_ne_nil]

theorem enclosing_of_spans_eq {g : Grouping} {ss : List Span} (hg : g.spans = ss)
    (h : StartSorted ss) (hne : ss ≠ []) :
    g.enclosing = .ok (hull (ss.head hne) (ss.getLast hne)) := by
  subst hg
  exact g.enclosing_eq_hull h

/-! ## Folds -/

/-- The groups of a left fold that has already come to a group. -/
def leftward (g : Grouping) (rest : List Span) : Grouping :=
  rest.foldl (fun g s => .join g (.one s)) g

/-- The groups of a right fold. -/
def rightward (init : List Span) (last : Span) : Grouping :=
  init.foldr (fun s g => .join (.one s) g) (.one last)

theorem spans_leftward (g : Grouping) (rest : List Span) :
    (leftward g rest).spans = g.spans ++ rest := by
  induction rest generalizing g with
  | nil => simp [leftward]
  | cons s rest ih =>
      rw [leftward, List.foldl_cons, ← leftward, ih]
      simp [spans]

theorem enclosing_leftward (g : Grouping) (rest : List Span) :
    (leftward g rest).enclosing =
      g.enclosing >>= fun s => rest.foldlM Span.enclosing s := by
  induction rest generalizing g with
  | nil => cases h : g.enclosing <;> simp [leftward, h, bind, Except.bind, pure, Except.pure]
  | cons s rest ih =>
      rw [leftward, List.foldl_cons, ← leftward, ih]
      cases h : g.enclosing <;> simp [enclosing, h, bind, Except.bind]

theorem spans_rightward (init : List Span) (last : Span) :
    (rightward init last).spans = init ++ [last] := by
  induction init with
  | nil => rfl
  | cons s init ih =>
      rw [rightward, List.foldr_cons, ← rightward, spans, ih]
      rfl

theorem enclosing_rightward (init : List Span) (last : Span) :
    (rightward init last).enclosing = init.foldrM Span.enclosing last := by
  induction init with
  | nil => rfl
  | cons s init ih =>
      rw [rightward, List.foldr_cons, ← rightward, enclosing, ih, List.foldrM_cons]
      rfl

end Grouping

namespace Span

variable {ss : List Span}

theorem StartSorted.foldlM_enclosing (h : StartSorted ss) (hne : ss ≠ []) :
    ss.tail.foldlM enclosing (ss.head hne) =
      .ok (hull (ss.head hne) (ss.getLast hne)) := by
  have hspans : (Grouping.leftward (.one (ss.head hne)) ss.tail).spans = ss := by
    rw [Grouping.spans_leftward]
    exact List.cons_head_tail hne
  have hfold : (Grouping.leftward (.one (ss.head hne)) ss.tail).enclosing =
      ss.tail.foldlM enclosing (ss.head hne) := Grouping.enclosing_leftward _ _
  rw [← hfold]
  exact Grouping.enclosing_of_spans_eq hspans h hne

theorem StartSorted.foldrM_enclosing (h : StartSorted ss) (hne : ss ≠ []) :
    ss.dropLast.foldrM enclosing (ss.getLast hne) =
      .ok (hull (ss.head hne) (ss.getLast hne)) := by
  have hspans : (Grouping.rightward ss.dropLast (ss.getLast hne)).spans = ss := by
    rw [Grouping.spans_rightward]
    exact List.dropLast_concat_getLast hne
  rw [← Grouping.enclosing_rightward]
  exact Grouping.enclosing_of_spans_eq hspans h hne

end Span

/-- Enclosing the spans of a sorted list two groups at a time.  However they are
grouped, from the left and from the right included, every call succeeds and the
whole comes to the span from the start of the first to the end of the last.
That span has all offsets of the list exactly when no span ends after the last
one; otherwise one of them has an offset that it lacks. -/
theorem Grouping.enclosing_sorted (ss : List Span) (hne : ss ≠ [])
    (hsorted : StartSorted ss) :
    ∃ r : Span, r.start = (ss.head hne).start ∧
      (r.length : Int) = ((ss.getLast hne).stop : Int) - (ss.head hne).start ∧
      (∀ g : Grouping, g.spans = ss → g.enclosing = .ok r) ∧
      ss.tail.foldlM Span.enclosing (ss.head hne) = .ok r ∧
      ss.dropLast.foldrM Span.enclosing (ss.getLast hne) = .ok r ∧
      ((∀ s ∈ ss, ∀ x ∈ s, x ∈ r) ↔ ∀ s ∈ ss, s.stop ≤ (ss.getLast hne).stop) ∧
      ((∃ s ∈ ss, (ss.getLast hne).stop < s.stop) → ∃ s ∈ ss, ∃ x ∈ s, x ∉ r) := by
  have hends := hsorted.head_le_stop hne
  have hsubset := hsorted.subset_hull_iff hne
  refine ⟨hull (ss.head hne) (ss.getLast hne), rfl, Int.ofNat_sub hends, ?_,
    hsorted.foldlM_enclosing hne, hsorted.foldrM_enclosing hne, hsubset, ?_⟩
  · intro g hg
    exact enclosing_of_spans_eq hg hsorted hne
  · rintro ⟨s, hs, hbeyond⟩
    by_contra hnone
    push Not at hnone
    exact absurd (hsubset.mp hnone s hs) (Nat.not_le.mpr hbeyond)

/-- Two spans start together, and the first one reaches beyond the last: its
offsets from the end of the last one on are lost. -/
theorem Grouping.enclosing_sorted_tied :
    StartSorted [⟨0, 9⟩, ⟨0, 2⟩, ⟨4, 1⟩] ∧
      (Grouping.join (.one ⟨0, 9⟩) (.join (.one ⟨0, 2⟩) (.one ⟨4, 1⟩))).enclosing =
        .ok ⟨0, 5⟩ ∧
      ∃ s ∈ ([⟨0, 9⟩, ⟨0, 2⟩, ⟨4, 1⟩] : List Span), ∃ x ∈ s, x ∉ (⟨0, 5⟩ : Span) := by
  have hsorted : StartSorted [⟨0, 9⟩, ⟨0, 2⟩, ⟨4, 1⟩] := by decide
  obtain ⟨⟨start, length⟩, hstart, hlength, hgroups, -, -, -, hlost⟩ :=
    enclosing_sorted _ (List.cons_ne_nil _ _) hsorted
  obtain rfl : start = 0 := hstart
  obtain rfl : length = 5 := Int.ofNat.inj hlength
  exact ⟨hsorted, hgroups _ rfl, hlost ⟨⟨0, 9⟩, by decide, by decide⟩⟩

end SourceSpans
