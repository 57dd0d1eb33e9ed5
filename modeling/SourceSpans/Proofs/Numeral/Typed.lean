import SourceSpans.Numeral
import SourceSpans.Proofs.Numeral.LeadingZeros

/-!
# Typed numerals

A typed numeral has no more digits than one that is written, each of them a
decimal digit of some script, so its number stays below the limit on either
side of zero.  What is written for an integer can be typed.
-/

namespace SourceSpans

theorem CodePoint.digitValue?_lt {c : CodePoint} {v : Nat}
    (h : c.digitValue? = some v) : v < 10 := by
  obtain ⟨first, hfirst, rfl⟩ := Option.map_eq_some_iff.mp h
  have hrange := List.find?_some hfirst
  simp only [Bool.and_eq_true, decide_eq_true_eq] at hrange
  omega

namespace Numeral

theorem groupedDigits?_lt {t : Text} {vs : List Nat}
    (h : groupedDigits? t = some vs) : ∀ v ∈ vs, v < 10 := by
  fun_induction groupedDigits? t generalizing vs with
  | case1 => simp at h
  | case2 c =>
      obtain ⟨v, hv, rfl⟩ := Option.map_eq_some_iff.mp h
      simpa using CodePoint.digitValue?_lt hv
  | case3 c d rest ih ih' =>
      obtain ⟨v, hv, h⟩ := Option.bind_eq_some_iff.mp h
      have hdigit : v < 10 := CodePoint.digitValue?_lt hv
      by_cases hgroup : d = '_'
      · rw [if_pos hgroup] at h
        obtain ⟨others, hothers, h⟩ := Option.bind_eq_some_iff.mp h
        obtain rfl := Option.some.inj h
        exact List.forall_mem_cons.mpr ⟨hdigit, ih hothers⟩
      · rw [if_neg hgroup] at h
        obtain ⟨others, hothers, h⟩ := Option.bind_eq_some_iff.mp h
        obtain rfl := Option.some.inj h
        exact List.forall_mem_cons.mpr ⟨hdigit, ih' hothers⟩

theorem typedNat?_lt {t : Text} {n : Nat} (h : typedNat? t = some n) :
    n < limit := by
  obtain ⟨vs, hvs, h⟩ := Option.bind_eq_some_iff.mp h
  by_cases hlength : vs.length ≤ maxDigits
  · rw [if_pos hlength] at h
    obtain rfl := Option.some.inj h
    calc
      vs.foldl (fun n v => 10 * n + v) 0 < (0 + 1) * 10 ^ vs.length :=
        foldl_lt vs (groupedDigits?_lt hvs) 0
      _ = 10 ^ vs.length := by rw [Nat.zero_add, Nat.one_mul]
      _ ≤ limit := pow_le_limit hlength
  · rw [if_neg hlength] at h
    simp at h

theorem natAbs_lt_of_typedNat? {t : Text} {m : Int}
    (h : (do let n ← typedNat? t; pure (n : Int)) = some m) : m.natAbs < limit := by
  obtain ⟨n, hn, h⟩ := Option.bind_eq_some_iff.mp h
  obtain rfl := Option.some.inj h
  exact typedNat?_lt hn

/-- A typed integer is less than the limit away from zero. -/
theorem natAbs_lt_of_typedInt? {t : Text} {n : Int} (h : typedInt? t = some n) :
    n.natAbs < limit := by
  unfold typedInt? at h
  split at h
  next => simp at h
  next =>
    split at h
    · obtain ⟨m, hm, rfl⟩ := Option.map_eq_some_iff.mp h
      rw [Int.natAbs_neg]
      exact natAbs_lt_of_typedNat? hm
    · split at h
      · obtain ⟨m, hm, rfl⟩ := Option.map_eq_some_iff.mp h
        exact natAbs_lt_of_typedNat? hm
      · obtain ⟨m, hm, rfl⟩ := Option.map_eq_some_iff.mp h
        exact natAbs_lt_of_typedNat? hm

/-! ## Written numerals -/

theorem digitValue?_of_isDigit {c : CodePoint} (h : c.isDigit = true) :
    c.digitValue? = some (c.val - 0x30) := by
  have hrange := isDigit_iff.mp h
  have hzero : (decide (0x30 ≤ c.val) && decide (c.val < 0x30 + 10)) = true := by
    simp only [Bool.and_eq_true, decide_eq_true_eq]
    omega
  have hfind : (DecimalDigit.zeros.find? fun z =>
      decide (z ≤ c.val) && decide (c.val < z + 10)) = some 0x30 :=
    List.find?_cons_of_pos hzero
  rw [CodePoint.digitValue?, hfind]
  rfl

theorem groupedDigits?_of_isDigit {t : Text} (hne : t ≠ [])
    (h : ∀ c ∈ t, c.isDigit = true) :
    groupedDigits? t = some (t.map fun c => c.val - 0x30) := by
  induction t with
  | nil => exact absurd rfl hne
  | cons c rest ih =>
    obtain ⟨hc, hrest⟩ := List.forall_mem_cons.mp h
    cases rest with
    | nil => rw [groupedDigits?, digitValue?_of_isDigit hc, Option.map_some,
        List.map_singleton]
    | cons d rest =>
      have hd : d ≠ '_' := by
        rintro rfl
        exact absurd (hrest _ List.mem_cons_self) (by decide)
      simp only [groupedDigits?, digitValue?_of_isDigit hc, if_neg hd,
        ih (List.cons_ne_nil d rest) hrest]
      rfl

theorem typedNat?_digits {n : Nat} (h : n < limit) :
    typedNat? (digits n) = some n := by
  have hlength := (length_digits_le_iff n).mpr h
  have hvalue := value_digits n
  rw [value] at hvalue
  rw [typedNat?, groupedDigits?_of_isDigit (digits_ne_nil n)
    fun _ => isDigit_of_mem_digits]
  simp only [Option.bind_eq_bind, Option.bind_some, List.length_map, if_pos hlength,
    List.foldl_map, hvalue, Option.pure_def]

theorem trim_of_forall {t : Text} (h : ∀ c ∈ t, isPadding c = false) :
    trim t = t := by
  have hkeep : ∀ s : Text, (∀ c ∈ s, isPadding c = false) →
      s.dropWhile isPadding = s := by
    intro s hs
    cases s with
    | nil => rfl
    | cons c rest => exact List.dropWhile_cons_of_neg (by simp [hs])
  rw [trim, hkeep t h, hkeep t.reverse (by simpa using h), List.reverse_reverse]

theorem isPadding_of_isDigit {c : CodePoint} (h : c.isDigit = true) :
    isPadding c = false := by
  have hrange := isDigit_iff.mp h
  simp only [isPadding, CodePoint.isBlank, Bool.and_eq_false_iff,
    Bool.or_eq_false_iff, decide_eq_false_iff_not, beq_eq_false_iff_ne]
  omega

theorem typedInt?_of_not_sign {c : CodePoint} {rest : Text}
    (htrim : trim (c :: rest) = c :: rest) (hc : c.isDigit = true) :
    typedInt? (c :: rest) = (typedNat? (c :: rest)).map fun n => (n : Int) := by
  have hminus : c ≠ '-' := by
    rintro rfl
    exact absurd hc (by decide)
  have hplus : c ≠ '+' := by
    rintro rfl
    exact absurd hc (by decide)
  rw [typedInt?, htrim]
  dsimp only
  rw [if_neg hminus, if_neg hplus]

theorem eq_digits_of_ofNat? {n : Nat} {t : Text} (h : ofNat? n = some t) :
    n < limit ∧ t = digits n := by
  unfold ofNat? at h
  split at h
  next hlt => exact ⟨hlt, (Option.some.inj h).symm⟩
  next => cases h

/-- What is written for an integer is typed for it. -/
theorem typedInt?_of_ofInt? {n : Int} {t : Text} (h : ofInt? n = some t) :
    typedInt? t = some n := by
  have hpadding : ∀ m, ∀ c ∈ digits m, isPadding c = false := by
    intro m c hc
    exact isPadding_of_isDigit (isDigit_of_mem_digits hc)
  cases n with
  | ofNat n =>
    obtain ⟨hlt, rfl⟩ := eq_digits_of_ofNat? h
    have hnat := typedNat?_digits hlt
    have htrim := trim_of_forall (hpadding n)
    cases hdigits : digits n with
    | nil => exact absurd hdigits (digits_ne_nil n)
    | cons c rest =>
      have hc : c.isDigit = true :=
        isDigit_of_mem_digits (hdigits ▸ List.mem_cons_self)
      rw [hdigits] at hnat htrim
      rw [typedInt?_of_not_sign htrim hc, hnat]
      rfl
  | negSucc n =>
    simp only [ofInt?, Option.map_eq_some_iff] at h
    obtain ⟨t, ht, rfl⟩ := h
    obtain ⟨hlt, rfl⟩ := eq_digits_of_ofNat? ht
    have htrim : trim (0x2D :: digits (n + 1)) = 0x2D :: digits (n + 1) :=
      trim_of_forall (List.forall_mem_cons.mpr ⟨by decide, hpadding (n + 1)⟩)
    rw [typedInt?, htrim]
    dsimp only
    rw [if_pos (by decide), typedNat?_digits hlt]
    rfl

end Numeral

end SourceSpans
