import SourceSpans.Proofs.Random.Seeded
import SourceSpans.Proofs.Span.Ends
import SourceSpans.Proofs.Success
import SourceSpans.Random.Walk

/-!
# What a walk visits

Every number that a step draws lies in a range that the step before has made
non-empty, so within a reach that is not negative a walk fails for no reason but
an exhausted source.  Each span of a walk lies to the one before it in one of
three ways, and none of them leads more than a longest step beyond it.
-/

namespace SourceSpans

namespace Walk

open Twister

/-! ## Results unless the source is exhausted -/

/-- The computation gives a result with the property, unless the random source
is exhausted before. -/
def Gives {α : Type} (P : α → Prop) (x : Except Fault α) : Prop :=
  (∃ a, x = .ok a ∧ P a) ∨ x = .error .exhausted

section

variable {α β : Type} {P : α → Prop} {Q : β → Prop} {x : Except Fault α}

theorem gives_ok {a : α} (h : P a) : Gives P (.ok a) := .inl ⟨a, rfl, h⟩

theorem Gives.bind {f : α → Except Fault β} (h : Gives P x)
    (hf : ∀ a, P a → Gives Q (f a)) : Gives Q (x >>= f) := by
  rcases h with ⟨a, rfl, ha⟩ | rfl
  · exact hf a ha
  · exact .inr rfl

theorem Gives.mono {R : α → Prop} (h : Gives P x) (hR : ∀ a, P a → R a) :
    Gives R x := by
  rcases h with ⟨a, rfl, ha⟩ | rfl
  · exact gives_ok (hR a ha)
  · exact .inr rfl

theorem Gives.map {f : α → β} (h : Gives P x) (hf : ∀ a, P a → Q (f a)) :
    Gives Q (x.map f) := by
  rcases h with ⟨a, rfl, ha⟩ | rfl
  · exact gives_ok (hf a ha)
  · exact .inr rfl

theorem Gives.exists_ok (h : Gives P x) (hx : x ≠ .error .exhausted) :
    ∃ a, x = .ok a ∧ P a := h.resolve_right hx

theorem Gives.of_ok {a : α} (h : Gives P x) (hx : x = .ok a) : P a := by
  rcases h with ⟨b, hb, hP⟩ | hexhausted
  · obtain rfl : b = a := Except.ok.inj (hb.symm.trans hx)
    exact hP
  · cases hexhausted.symm.trans hx

theorem Gives.eq_exhausted {f : Fault} (h : Gives P x) (hx : x = .error f) :
    f = .exhausted := by
  rcases h with ⟨b, hb, -⟩ | hexhausted
  · cases hb.symm.trans hx
  · exact Except.error.inj (hx.symm.trans hexhausted)

end

/-! ## Draws -/

variable {low high reach : Int}

theorem gives_integer (h : low ≤ high) (source : Twister) :
    Gives (fun drawn => low ≤ drawn.1 ∧ drawn.1 ≤ high)
      (source.integer low high) := by
  cases hdrawn : source.integer low high with
  | ok drawn => exact gives_ok (integer_mem hdrawn)
  | error f =>
    simp only [integer, if_neg (Int.not_lt.mpr h)] at hdrawn
    split at hdrawn
    next => cases hdrawn
    next =>
      rw [← hdrawn]
      exact .inr rfl

theorem integer_of_lt (h : high < low) (source : Twister) :
    source.integer low high = .error (emptyRange low high) := by
  simp only [integer, if_pos h]

theorem emptyRange_eq (low high : Int) :
    emptyRange low high = .emptyRange low high ∨
      emptyRange low high = .overlong := by
  unfold emptyRange
  split
  next => exact .inl rfl
  next => exact .inr rfl

theorem place_natCast (start length : Nat) (source : Twister) :
    place start length source = .ok (⟨start, length⟩, source) := by
  rw [place, Span.ofInts_natCast]
  rfl

theorem gives_place {start length : Int} (hstart : 0 ≤ start)
    (hlength : 0 ≤ length) (source : Twister) :
    Gives (fun placed => (placed.1.start : Int) = start ∧
      (placed.1.length : Int) = length) (place start length source) := by
  obtain ⟨first, rfl⟩ := Int.eq_ofNat_of_zero_le hstart
  obtain ⟨count, rfl⟩ := Int.eq_ofNat_of_zero_le hlength
  rw [place_natCast]
  exact gives_ok ⟨rfl, rfl⟩

/-! ## Steps -/

/-- The span starts where the one before ends and is short. -/
def Adjacent (before s : Span) : Prop :=
  s.start = before.stop ∧ (s.length : Int) ≤ longestStep

/-- The span starts inside the one before and is short, but no point. -/
def Overlapping (before s : Span) : Prop :=
  0 < before.length ∧ before.start ≤ s.start ∧ s.start < before.stop ∧
    1 ≤ s.length ∧ (s.length : Int) ≤ longestStep

/-- The span lies within the reach of the walk. -/
def WithinReach (reach : Int) (s : Span) : Prop := (s.stop : Int) ≤ reach

/-- How a span of a walk lies to the one before it. -/
def Follows (reach : Int) (before s : Span) : Prop :=
  Adjacent before s ∨ Overlapping before s ∨ WithinReach reach s

theorem gives_touching (before : Span) (source : Twister) :
    Gives (fun taken => Adjacent before taken.1)
      (take reach source (.touching before)) := by
  apply (gives_integer (by decide) source).bind
  rintro ⟨length, source⟩ ⟨hlow, hhigh⟩
  apply (gives_place (Int.natCast_nonneg _) hlow source).mono
  rintro ⟨s, source⟩ ⟨hstart, hlength⟩
  exact ⟨Int.ofNat.inj hstart, hlength ▸ hhigh⟩

theorem gives_overlapping {before : Span} (hbefore : 0 < before.length)
    (source : Twister) :
    Gives (fun taken => Overlapping before taken.1)
      (take reach source (.overlapping before)) := by
  have hstop : before.stop = before.start + before.length := rfl
  apply (gives_integer (by omega) source).bind
  rintro ⟨start, source⟩ ⟨hfirst, hlast⟩
  apply (gives_integer (by decide) source).bind
  rintro ⟨length, source⟩ ⟨hlow, hhigh⟩
  dsimp only at hfirst hlast hlow hhigh
  apply (gives_place (by omega) (by omega) source).mono
  rintro ⟨s, source⟩ ⟨hstart, hlength⟩
  dsimp only [Overlapping] at hstart hlength ⊢
  omega

theorem gives_point (hreach : 0 ≤ reach) (source : Twister) :
    Gives (fun taken => WithinReach reach taken.1)
      (take reach source .point) := by
  apply (gives_integer hreach source).bind
  rintro ⟨start, source⟩ ⟨hlow, hhigh⟩
  apply (gives_place hlow (Int.le_refl 0) source).mono
  rintro ⟨s, source⟩ ⟨hstart, hlength⟩
  dsimp only [WithinReach, Span.stop] at hhigh hstart hlength ⊢
  omega

theorem gives_fresh (hreach : 0 ≤ reach) (source : Twister) :
    Gives (fun taken => WithinReach reach taken.1)
      (take reach source .fresh) := by
  apply (gives_integer hreach source).bind
  rintro ⟨start, source⟩ ⟨hlow, hhigh⟩
  dsimp only at hlow hhigh
  apply (gives_integer (by omega) source).bind
  rintro ⟨length, source⟩ ⟨hnonneg, hrest⟩
  apply (gives_place hlow hnonneg source).mono
  rintro ⟨s, source⟩ ⟨hstart, hlength⟩
  dsimp only [WithinReach, Span.stop] at hrest hstart hlength ⊢
  omega

theorem move_none (roll : Nat) :
    move none roll = .point ∨ move none roll = .fresh := by
  dsimp only [move]
  split
  next => exact .inl rfl
  next => exact .inr rfl

/-- A roll never overlaps a point. -/
theorem move_some (before : Span) (roll : Nat) :
    move (some before) roll = .touching before ∨
      (0 < before.length ∧ move (some before) roll = .overlapping before) ∨
      move (some before) roll = .point ∨ move (some before) roll = .fresh := by
  dsimp only [move]
  split
  next => exact .inl rfl
  next =>
    split
    next hoverlapping =>
      exact .inr (.inl ⟨Nat.pos_of_ne_zero hoverlapping.1, rfl⟩)
    next =>
      split
      next => exact .inr (.inr (.inl rfl))
      next => exact .inr (.inr (.inr rfl))

theorem step_of_roll {before : Option Span} {source rolled : Twister}
    {roll : Nat} {m : Move} (hroll : source.fraction = (roll, rolled))
    (hmove : move before roll = m) :
    step reach before source = take reach rolled m := by
  rw [step, hroll]
  dsimp only
  rw [hmove]

/-- The first span of a walk lies within its reach. -/
theorem gives_step_none (hreach : 0 ≤ reach) (source : Twister) :
    Gives (fun stepped => WithinReach reach stepped.1)
      (step reach none source) := by
  rcases move_none source.fraction.1 with hmove | hmove
  · rw [step_of_roll rfl hmove]
    exact gives_point hreach _
  · rw [step_of_roll rfl hmove]
    exact gives_fresh hreach _

theorem gives_step_some (hreach : 0 ≤ reach) (before : Span)
    (source : Twister) :
    Gives (fun stepped => Follows reach before stepped.1)
      (step reach (some before) source) := by
  rcases move_some before source.fraction.1 with
    hmove | ⟨hbefore, hmove⟩ | hmove | hmove
  · rw [step_of_roll rfl hmove]
    exact (gives_touching before _).mono fun _ h => .inl h
  · rw [step_of_roll rfl hmove]
    exact (gives_overlapping hbefore _).mono fun _ h => .inr (.inl h)
  · rw [step_of_roll rfl hmove]
    exact (gives_point hreach _).mono fun _ h => .inr (.inr h)
  · rw [step_of_roll rfl hmove]
    exact (gives_fresh hreach _).mono fun _ h => .inr (.inr h)

/-- Without reach there is no first span. -/
theorem step_none_of_neg (hreach : reach < 0) (source : Twister) :
    step reach none source = .error (emptyRange 0 reach) := by
  rcases move_none source.fraction.1 with hmove | hmove
  · rw [step_of_roll rfl hmove, take, integer_of_lt hreach]
    rfl
  · rw [step_of_roll rfl hmove, take, integer_of_lt hreach]
    rfl

/-! ## Walks -/

theorem steps_succ (count : Nat) (before : Option Span) (source : Twister) :
    steps reach (count + 1) before source =
      step reach before source >>= fun stepped =>
        (steps reach count (some stepped.1) stepped.2).map (stepped.1 :: ·) := by
  rw [steps]
  cases step reach before source with
  | error f => rfl
  | ok stepped => rfl

theorem gives_steps_some (hreach : 0 ≤ reach) (count : Nat) (before : Span)
    (source : Twister) :
    Gives (fun ss => ss.length = count ∧
        (before :: ss).IsChain (Follows reach))
      (steps reach count (some before) source) := by
  induction count generalizing before source with
  | zero => exact gives_ok ⟨rfl, .singleton before⟩
  | succ count ih =>
    rw [steps_succ]
    apply (gives_step_some hreach before source).bind
    rintro ⟨s, source⟩ hfollows
    apply (ih s source).map
    rintro ss ⟨hlength, hchain⟩
    exact ⟨congrArg (· + 1) hlength, .cons_cons hfollows hchain⟩

/-- A list of spans of which each lies to the one before it as in a walk, and the
first within reach. -/
def IsWalk (reach : Int) (ss : List Span) : Prop :=
  (∀ s, ss.head? = some s → WithinReach reach s) ∧ ss.IsChain (Follows reach)

theorem gives_steps_none (hreach : 0 ≤ reach) (count : Nat) (source : Twister) :
    Gives (fun ss => ss.length = count ∧ IsWalk reach ss)
      (steps reach count none source) := by
  cases count with
  | zero => exact gives_ok ⟨rfl, by simp, .nil⟩
  | succ count =>
    rw [steps_succ]
    apply (gives_step_none hreach source).bind
    rintro ⟨s, source⟩ hwithin
    apply (gives_steps_some hreach count s source).map
    rintro ss ⟨hlength, hchain⟩
    refine ⟨congrArg (· + 1) hlength, ?_, hchain⟩
    intro first hfirst
    obtain rfl : s = first := Option.some.inj hfirst
    exact hwithin

/-! ## Bounds -/

/-- A step leads at most a longest step beyond the reach and the span before. -/
theorem Follows.stop_le {before s : Span} {bound : Int}
    (h : Follows reach before s) (hreach : reach ≤ bound)
    (hbefore : (before.stop : Int) ≤ bound) :
    (s.stop : Int) ≤ bound + longestStep := by
  dsimp only [Follows, Adjacent, Overlapping, WithinReach, Span.stop,
    longestStep] at *
  omega

theorem IsWalk.stop_le {ss : List Span} (h : IsWalk reach ss) {i : Nat}
    {s : Span} (hs : ss[i]? = some s) :
    (s.stop : Int) ≤ reach + longestStep * i := by
  obtain ⟨hfirst, hchain⟩ := h
  induction i generalizing s with
  | zero =>
    have hwithin : (s.stop : Int) ≤ reach :=
      hfirst s (by rw [List.head?_eq_getElem?, hs])
    simpa using hwithin
  | succ i ih =>
    obtain ⟨hi, rfl⟩ := List.getElem?_eq_some_iff.mp hs
    have hfollows := List.isChain_iff_getElem.mp hchain i hi
    have hbefore := ih (List.getElem?_eq_getElem (Nat.lt_of_succ_lt hi))
    have hstep := hfollows.stop_le
      (by dsimp only [longestStep]; omega) hbefore
    dsimp only [longestStep] at hstep ⊢
    omega

/-! ## Neighbours -/

/-- Nothing lies between a span and one that starts where it ends. -/
theorem Adjacent.not_overlaps {before s : Span} (h : Adjacent before s) :
    Span.overlaps before s = false ∧
      Span.gap before s = .ok ⟨before.stop, 0⟩ := by
  have hstart : before.start ≤ s.start := h.1 ▸ Span.start_le_stop before
  constructor
  · simp [Span.overlaps, Span.inOrder_of_le hstart, h.1]
  · rw [Span.gap, Span.inOrder_of_le hstart,
      Span.between_of_le (Nat.le_of_eq h.1.symm), h.1, Nat.sub_self]

/-- A span that starts inside another shares an offset with it, whichever is
asked about first. -/
theorem Overlapping.overlaps {before s : Span} (h : Overlapping before s) :
    Span.overlaps before s = true ∧ (∃ e, Span.gap before s = .error e) ∧
      ∃ e, Span.gap s before = .error e := by
  obtain ⟨hbefore, hstart, hstop, hlength, -⟩ := h
  refine ⟨?_, ?_, ?_⟩
  · simp only [Span.overlaps, Span.inOrder_of_le hstart, hstop]
    simp
    omega
  · rw [Span.gap, Span.inOrder_of_le hstart, Span.between_of_lt hstop]
    exact ⟨_, rfl⟩
  · by_cases hback : s.start ≤ before.start
    · rw [Span.gap, Span.inOrder_of_le hback, Span.between_of_lt (by
        dsimp only [Span.stop]
        omega)]
      exact ⟨_, rfl⟩
    · rw [Span.gap, Span.inOrder_of_lt (by omega), Span.between_of_lt hstop]
      exact ⟨_, rfl⟩

/-! ## Moves made with known words -/

section Hands

variable {a b : UInt32} {ws : List UInt32} {source : Twister}
  {start length : Nat}

theorem take_touching_of_hands (reach : Int) (before : Span)
    (h : Hands (a :: ws) source)
    (hlength : a.toNat / Nat.pow 2 (32 - bitLength 21) = length)
    (hshort : length < 21) :
    ∃ after, Hands ws after ∧
      take reach source (.touching before) =
        .ok (⟨before.stop, length⟩, after) := by
  have hwidth : (longestStep - 0 + 1).toNat = 21 := by decide
  obtain ⟨after, hands, hdrawn⟩ :=
    h.integer hwidth (by decide +kernel) hlength hshort
  refine ⟨after, hands, ?_⟩
  rw [take, hdrawn, Int.zero_add]
  exact place_natCast before.stop length after

theorem take_overlapping_of_hands (reach : Int) (before : Span)
    (h : Hands (a :: b :: ws) source)
    (hbits : bitLength before.length ≤ 32)
    (hstart : a.toNat / Nat.pow 2 (32 - bitLength before.length) = start)
    (hinside : start < before.length)
    (hlength : b.toNat / Nat.pow 2 (32 - bitLength 20) = length)
    (hshort : length < 20) :
    ∃ after, Hands ws after ∧
      take reach source (.overlapping before) =
        .ok (⟨before.start + start, 1 + length⟩, after) := by
  have hwidth : ((before.stop : Int) - 1 - before.start + 1).toNat =
      before.length := by
    dsimp only [Span.stop]
    omega
  have hwidth' : (longestStep - 1 + 1).toNat = 20 := by decide
  obtain ⟨started, hands, hfirst⟩ := h.integer hwidth hbits hstart hinside
  obtain ⟨after, hands, hsecond⟩ :=
    hands.integer hwidth' (by decide +kernel) hlength hshort
  refine ⟨after, hands, ?_⟩
  rw [take, hfirst]
  dsimp only [bind, Except.bind]
  rw [hsecond]
  exact place_natCast (before.start + start) (1 + length) after

theorem take_fresh_of_hands (reach : Nat) (h : Hands (a :: b :: ws) source)
    (hbits : bitLength (reach + 1) ≤ 32)
    (hstart : a.toNat / Nat.pow 2 (32 - bitLength (reach + 1)) = start)
    (hwithin : start < reach + 1) (hbits' : bitLength (reach - start + 1) ≤ 32)
    (hlength : b.toNat / Nat.pow 2 (32 - bitLength (reach - start + 1)) = length)
    (hrest : length < reach - start + 1) :
    ∃ after, Hands ws after ∧
      take reach source .fresh = .ok (⟨start, length⟩, after) := by
  have hwidth : ((reach : Int) - 0 + 1).toNat = reach + 1 := by omega
  have hwidth' : ((reach : Int) - (0 + start) - 0 + 1).toNat =
      reach - start + 1 := by omega
  obtain ⟨started, hands, hfirst⟩ := h.integer hwidth hbits hstart hwithin
  obtain ⟨after, hands, hsecond⟩ := hands.integer hwidth' hbits' hlength hrest
  refine ⟨after, hands, ?_⟩
  rw [take, hfirst]
  dsimp only [bind, Except.bind]
  rw [hsecond, Int.zero_add, Int.zero_add]
  exact place_natCast start length after

end Hands

/-! ## A walk of three spans -/

theorem hands_2005 :
    Hands [1934328711, 58306743, 328143899, 2090322749, 899630538, 1995191789,
      2784440323, 1857461871, 416712330, 1015070222, 1915304963]
      (ofSeed 2005) := by
  have hwords : (List.range' 0 11).map (handed (seeded (UInt32.toNat 2005))) =
      [1934328711, 58306743, 328143899, 2090322749, 899630538, 1995191789,
        2784440323, 1857461871, 416712330, 1015070222, 1915304963] := by
    decide +kernel
  have hkey : keyOfNat (Int.natAbs 2005) = [2005] := by
    rw [keyOfNat, if_pos (by decide)]
    rfl
  rw [ofSeed, hkey, ← hwords]
  exact hands_ofKey 2005 (by decide)

theorem spans_2005 :
    spans 2005 3 10000 = .ok [⟨1251, 7973⟩, ⟨6561, 14⟩, ⟨6575, 14⟩] := by
  obtain ⟨rolled, hands, hroll⟩ :=
    hands_2005.fraction (show _ = 4056581311162050 by decide +kernel)
  obtain ⟨source, hands, htake⟩ := take_fresh_of_hands 10000 hands
    (by decide +kernel) (show _ = 1251 by decide +kernel) (by decide)
    (by decide +kernel) (show _ = 7973 by decide +kernel) (by decide)
  have hfresh : step 10000 none (ofSeed 2005) = .ok (⟨1251, 7973⟩, source) :=
    (step_of_roll hroll rfl).trans htake
  obtain ⟨rolled, hands, hroll⟩ :=
    hands.fraction (show _ = 1886661992231127 by decide +kernel)
  obtain ⟨source', hands, htake⟩ := take_overlapping_of_hands 10000 ⟨1251, 7973⟩
    hands (by decide +kernel)
    (show _ = 5310 by decide +kernel) (by decide)
    (show _ = 13 by decide +kernel) (by decide)
  have hinside : step 10000 (some ⟨1251, 7973⟩) source =
      .ok (⟨6561, 14⟩, source') := (step_of_roll hroll rfl).trans htake
  obtain ⟨rolled, hands, hroll⟩ :=
    hands.fraction (show _ = 873909091173112 by decide +kernel)
  obtain ⟨source'', -, htake⟩ := take_touching_of_hands 10000 ⟨6561, 14⟩
    hands (show _ = 14 by decide +kernel) (by decide)
  have hbehind : step 10000 (some ⟨6561, 14⟩) source' =
      .ok (⟨6575, 14⟩, source'') := (step_of_roll hroll rfl).trans htake
  have hsteps : steps 10000 3 none (ofSeed 2005) =
      .ok [⟨1251, 7973⟩, ⟨6561, 14⟩, ⟨6575, 14⟩] := by
    rw [steps, hfresh]
    dsimp only
    rw [steps, hinside]
    dsimp only
    rw [steps, hbehind]
    rfl
  exact hsteps

/-! ## Whole walks -/

theorem spans_of_neg {seed count : Int} (hcount : 1 ≤ count)
    (hreach : reach < 0) :
    spans seed count reach = .error (emptyRange 0 reach) := by
  obtain ⟨more, hmore⟩ : ∃ more, count.toNat = more + 1 :=
    ⟨count.toNat - 1, by omega⟩
  rw [spans, hmore, steps_succ, step_none_of_neg hreach]
  rfl

theorem spans_of_nonpos {seed count : Int} (hcount : count ≤ 0) :
    spans seed count reach = .ok [] := by
  rw [spans, Int.toNat_of_nonpos hcount]
  rfl

theorem gives_spans (seed : Int) {count : Int} (h : count ≤ 0 ∨ 0 ≤ reach) :
    Gives (fun ss => ss.length = count.toNat ∧ IsWalk reach ss)
      (spans seed count reach) := by
  by_cases hreach : 0 ≤ reach
  · exact gives_steps_none hreach count.toNat (ofSeed seed)
  · have hcount : count ≤ 0 := h.resolve_right hreach
    rw [spans_of_nonpos hcount, Int.toNat_of_nonpos hcount]
    exact gives_ok ⟨rfl, by simp, .nil⟩

/-- A walk of at least one span fails without reach.  Otherwise it has as many
spans as were asked for, each of them ends within the reach and one longest step
for every span before it, and each lies to the one before it in one of three
ways. -/
theorem spans_related (seed count reach : Int)
    (hends : spans seed count reach ≠ .error .exhausted) :
    ((∃ f, spans seed count reach = .error f) ↔ 1 ≤ count ∧ reach < 0) ∧
      (∀ f, spans seed count reach = .error f →
        f = .emptyRange 0 reach ∨ f = .overlong) ∧
      ∀ ss, spans seed count reach = .ok ss →
        (ss.length : Int) = max count 0 ∧
          (∀ (i : Nat) (s : Span), ss[i]? = some s →
            (s.stop : Int) ≤ reach + 20 * i) ∧
          (∀ s, ss.head? = some s → (s.stop : Int) ≤ reach) ∧
          ss.IsChain fun p s =>
            (s.start = p.stop ∧ s.length ≤ 20 ∧ Span.overlaps p s = false ∧
              Span.gap p s = .ok ⟨p.stop, 0⟩) ∨
            (0 < p.length ∧ p.start ≤ s.start ∧ s.start < p.stop ∧
              1 ≤ s.length ∧ s.length ≤ 20 ∧ Span.overlaps p s = true ∧
              (∃ e, Span.gap p s = .error e) ∧ ∃ e, Span.gap s p = .error e) ∨
            (s.stop : Int) ≤ reach := by
  by_cases hfails : 1 ≤ count ∧ reach < 0
  · have hspans : spans seed count reach = .error (emptyRange 0 reach) :=
      spans_of_neg hfails.1 hfails.2
    refine ⟨⟨fun _ => hfails, fun _ => ⟨_, hspans⟩⟩, ?_, ?_⟩
    · intro f hf
      obtain rfl : emptyRange 0 reach = f :=
        Except.error.inj (hspans.symm.trans hf)
      exact emptyRange_eq 0 reach
    · intro ss hss
      cases hspans.symm.trans hss
  · have hgives : Gives _ (spans seed count reach) :=
      gives_spans seed (by omega)
    have hnever : ∀ f, spans seed count reach ≠ .error f := by
      intro f hf
      rw [hgives.eq_exhausted hf] at hf
      exact hends hf
    refine ⟨⟨?_, fun h => absurd h hfails⟩, fun f hf => absurd hf (hnever f), ?_⟩
    · rintro ⟨f, hf⟩
      exact absurd hf (hnever f)
    · intro ss hss
      obtain ⟨hlength, hwalk⟩ := hgives.of_ok hss
      refine ⟨by omega, fun i s hs => hwalk.stop_le hs, hwalk.1, ?_⟩
      apply hwalk.2.imp
      rintro p s (hadjacent | hoverlapping | hwithin)
      · have hshort : s.length ≤ 20 := Int.ofNat_le.mp hadjacent.2
        exact .inl ⟨hadjacent.1, hshort, hadjacent.not_overlaps⟩
      · obtain ⟨hbefore, hstart, hstop, hpositive, hlong⟩ := hoverlapping
        have hshort : s.length ≤ 20 := Int.ofNat_le.mp hlong
        exact .inr (.inl ⟨hbefore, hstart, hstop, hpositive, hshort,
          Overlapping.overlaps ⟨hbefore, hstart, hstop, hpositive, hlong⟩⟩)
      · exact .inr (.inr hwithin)

/-- A fresh span, one that starts inside it, and one that touches that one. -/
theorem spans_related_three :
    spans 2005 3 10000 ≠ .error .exhausted ∧
      ∃ ss, spans 2005 3 10000 = .ok ss ∧ (ss.length : Int) = max 3 0 ∧
        ∀ (i : Nat) (s : Span), ss[i]? = some s →
          (s.stop : Int) ≤ 10000 + 20 * i := by
  have hends : spans 2005 3 10000 ≠ .error .exhausted := by
    simp [spans_2005]
  obtain ⟨-, -, hok⟩ := spans_related 2005 3 10000 hends
  obtain ⟨hlength, hbound, -⟩ := hok _ spans_2005
  exact ⟨hends, _, spans_2005, hlength, hbound⟩

end Walk

end SourceSpans
