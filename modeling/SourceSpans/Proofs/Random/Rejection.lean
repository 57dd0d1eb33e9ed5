import Mathlib.Data.Fintype.BigOperators
import Mathlib.Data.Fintype.Pigeonhole
import Mathlib.Logic.Function.Iterate
import SourceSpans.Random.Twister

/-!
# Rejected draws

A number below a bound is drawn again and again until it is small enough.  The
number of tries is limited, but the limit is no limit on the search: a draw
leaves one of finitely many sources behind, so whoever was rejected more often
than that has met a source twice and is rejected for ever.
-/

namespace SourceSpans

namespace Twister

/-! ## Sources that a draw leaves behind -/

/-- Some words have been handed out and the others not yet. -/
def Drawn (source : Twister) : Prop := 0 < source.used ∧ source.used ≤ size

theorem drawn_next (source : Twister) : source.next.2.Drawn := by
  unfold next
  split
  next hused => exact ⟨Nat.succ_pos _, hused⟩
  next => exact ⟨Nat.one_pos, Nat.le_add_left 1 623⟩

theorem drawn_bits (count : Nat) (source : Twister) :
    (source.bits count).2.Drawn := by
  induction count using Nat.strong_induction_on generalizing source with
  | _ count ih =>
    rw [bits]
    dsimp only
    split
    next hmore => exact ih (count - 32) (by omega) source.next.2
    next => exact drawn_next source

/-- The words of a source and how many of them have been handed out. -/
def code (source : Twister) : (Fin size → Fin UInt32.size) × Fin size :=
  (fun i => source.words[i].toFin, place (source.used - 1))

theorem eq_of_code_eq {left right : Twister} (hleft : left.Drawn)
    (hright : right.Drawn) (h : left.code = right.code) : left = right := by
  obtain ⟨words, used⟩ := left
  obtain ⟨words', used'⟩ := right
  simp only [Drawn] at hleft hright
  simp only [code, Prod.mk.injEq, place, Fin.mk.injEq] at h
  obtain ⟨hwords, hused⟩ := h
  have hsame : words = words' := by
    ext i hi
    exact congrArg Fin.val (congrFun hwords ⟨i, hi⟩)
  rw [Nat.mod_eq_of_lt (by omega), Nat.mod_eq_of_lt (by omega)] at hused
  rw [hsame, show used = used' by omega]

theorem card_code (count : Nat) :
    Fintype.card ((Fin count → Fin UInt32.size) × Fin count) = sources count := by
  rw [Fintype.card_prod, Fintype.card_fun, Fintype.card_fin, Fintype.card_fin]
  rfl

/-! ## Repeated draws -/

/-- The source after a number of draws of `count` bits each. -/
def afterDraws (count draws : Nat) (source : Twister) : Twister :=
  (fun source => (source.bits count).2)^[draws] source

theorem afterDraws_add (count more draws : Nat) (source : Twister) :
    afterDraws count (more + draws) source =
      afterDraws count more (afterDraws count draws source) :=
  Function.iterate_add_apply _ more draws source

theorem drawn_afterDraws (count draws : Nat) (source : Twister) :
    (afterDraws count (draws + 1) source).Drawn := by
  unfold afterDraws
  rw [Function.iterate_succ_apply']
  exact drawn_bits count _

/-- The number that is drawn after so many draws is not below the bound. -/
def Rejected (bound : Nat) (source : Twister) (draws : Nat) : Prop :=
  bound ≤ ((afterDraws (bitLength bound) draws source).bits (bitLength bound)).1

theorem below?_eq_none_iff_of_tries {bound tries : Nat} {source : Twister} :
    below? bound tries source = none ↔
      ∀ draws < tries, Rejected bound source draws := by
  induction tries generalizing source with
  | zero => simp [below?]
  | succ tries ih =>
    have hshift : ∀ draws, Rejected bound source (draws + 1) ↔
        Rejected bound (source.bits (bitLength bound)).2 draws := by
      intro draws
      exact Iff.rfl
    have hfirst : Rejected bound source 0 ↔
        ¬ (source.bits (bitLength bound)).1 < bound := Nat.not_lt.symm
    simp only [below?]
    constructor
    · intro h draws hdraws
      split at h
      next => cases h
      next hge =>
        cases draws with
        | zero => exact hfirst.mpr hge
        | succ draws => exact (hshift draws).mpr (ih.mp h draws (by omega))
    · intro h
      rw [if_neg (hfirst.mp (h 0 (by omega)))]
      apply ih.mpr
      intro draws hdraws
      exact (hshift draws).mp (h (draws + 1) (by omega))

/-- Sources that two numbers of draws leave behind: once they are the same, what
follows the later one has followed the earlier one. -/
theorem rejected_of_afterDraws_eq {bound first second : Nat} {source : Twister}
    (hsame : afterDraws (bitLength bound) first source =
      afterDraws (bitLength bound) second source) (more : Nat)
    (h : Rejected bound source (more + first)) :
    Rejected bound source (more + second) := by
  unfold Rejected at h ⊢
  rw [afterDraws_add, hsame, ← afterDraws_add] at h
  exact h

/-- Rejections that go on beyond the number of sources go on for ever. -/
theorem rejected_of_sources {bound : Nat} {source : Twister}
    (h : ∀ draws < sources size + 1, Rejected bound source draws) (draws : Nat) :
    Rejected bound source draws := by
  induction draws using Nat.strong_induction_on with
  | _ draws ih =>
    by_cases hfew : draws < sources size + 1
    · exact h draws hfew
    · -- two of the sources that the draws before this one left are the same
      let left : Fin draws → Twister := fun i =>
        afterDraws (bitLength bound) (i + 1) source
      have hcard : Fintype.card ((Fin size → Fin UInt32.size) × Fin size) <
          Fintype.card (Fin draws) := by
        rw [card_code, Fintype.card_fin]
        omega
      have hrepeat : ∀ i j : Fin draws, i < j → left i = left j →
          Rejected bound source draws := by
        intro i j hij hsame
        have hi : (i : Nat) < j := hij
        have hj := j.isLt
        have hback := ih (draws - (j + 1) + (i + 1)) (by omega)
        have hnow := rejected_of_afterDraws_eq hsame _ hback
        rwa [Nat.sub_add_cancel (by omega)] at hnow
      obtain ⟨i, j, hne, hcode⟩ :=
        Fintype.exists_ne_map_eq_of_card_lt (fun i => (left i).code) hcard
      have hsame : left i = left j :=
        eq_of_code_eq (drawn_afterDraws _ _ _) (drawn_afterDraws _ _ _) hcode
      rcases lt_or_gt_of_ne hne with hij | hji
      · exact hrepeat i j hij hsame
      · exact hrepeat j i hji hsame.symm

/-- A search gives no number exactly when it would never give one. -/
theorem below?_eq_none_iff {bound : Nat} {source : Twister} :
    below? bound (sources size + 1) source = none ↔
      ∀ draws, Rejected bound source draws := by
  rw [below?_eq_none_iff_of_tries]
  constructor
  · intro h draws
    exact rejected_of_sources h draws
  · intro h draws _
    exact h draws

/-- An integer is not drawn exactly when every number is rejected for ever. -/
theorem integer_eq_exhausted_iff {low high : Int} {source : Twister} :
    source.integer low high = .error .exhausted ↔
      low ≤ high ∧ ∀ draws, Rejected (high - low + 1).toNat source draws := by
  rw [← below?_eq_none_iff, integer]
  by_cases hrange : high < low
  · have hfault : emptyRange low high ≠ .exhausted := by
      unfold emptyRange
      split
      next => exact Fault.noConfusion
      next => exact Fault.noConfusion
    rw [if_pos hrange]
    simp [hfault, hrange]
  · rw [if_neg hrange]
    cases below? (high - low + 1).toNat (sources size + 1) source with
    | none => simp [Int.not_lt.mp hrange]
    | some drawn => simp

end Twister

end SourceSpans
