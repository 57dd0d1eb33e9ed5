import SourceSpans.Span.Bracketed
import Mathlib.Algebra.Group.Nat.Defs
import Mathlib.Data.List.Induction

/-!
# Leading zeros

Many runs of digits stand for one number, and they differ in the zeros in front
only.  Writing the number that a run stands for gives the run without these
zeros, so a run is what is written for its number exactly when it has none.
-/

namespace SourceSpans

namespace Numeral

open Bracketed (IsRun)

/-- The digit of a number below ten. -/
def digit (d : Nat) : CodePoint := CodePoint.ofChar d.digitChar

/-- A run of digits without the zeros in front that may be left out.  The last
digit stays even when it is a zero. -/
def stripZeros : Text → Text
  | [] => []
  | [c] => [c]
  | c :: d :: rest =>
      if c = 0x30 then stripZeros (d :: rest) else c :: d :: rest

/-- A zero in front of another digit. -/
def HasSpareZero (t : Text) : Prop := ∃ d rest, t = 0x30 :: d :: rest

/-! ## The value of a run -/

theorem value_append_singleton (t : Text) (c : CodePoint) :
    value (t ++ [c]) = 10 * value t + (c.val - 0x30) := by
  simp [value, List.foldl_append]

theorem value_singleton (c : CodePoint) : value [c] = c.val - 0x30 := by
  simp [value]

theorem value_cons_zero (t : Text) : value (0x30 :: t) = value t := rfl

theorem isDigit_iff {c : CodePoint} :
    c.isDigit = true ↔ 0x30 ≤ c.val ∧ c.val ≤ 0x39 := by
  simp [CodePoint.isDigit]

/-- Digits below ten put together give a number with no more digits. -/
theorem foldl_lt (vs : List Nat) (h : ∀ v ∈ vs, v < 10) (n : Nat) :
    vs.foldl (fun n v => 10 * n + v) n < (n + 1) * 10 ^ vs.length := by
  induction vs generalizing n with
  | nil => simp
  | cons v rest ih =>
      have hv : v < 10 := h v (by simp)
      have hstep := ih (fun w hw => h w (by simp [hw])) (10 * n + v)
      have hle : (10 * n + v + 1) * 10 ^ rest.length ≤
          ((n + 1) * 10) * 10 ^ rest.length :=
        Nat.mul_le_mul_right _ (by omega)
      rw [List.foldl_cons, List.length_cons, Nat.pow_succ]
      calc
        _ < (10 * n + v + 1) * 10 ^ rest.length := hstep
        _ ≤ ((n + 1) * 10) * 10 ^ rest.length := hle
        _ = (n + 1) * (10 ^ rest.length * 10) := by
          rw [Nat.mul_assoc, Nat.mul_comm 10]

theorem value_lt {t : Text} (h : ∀ c ∈ t, c.isDigit = true) :
    value t < 10 ^ t.length := by
  have hdigits : ∀ v ∈ t.map (fun c : CodePoint => c.val - 0x30), v < 10 := by
    intro v hv
    obtain ⟨c, hc, rfl⟩ := List.mem_map.mp hv
    have hrange := isDigit_iff.mp (h c hc)
    omega
  have hlt := foldl_lt _ hdigits 0
  rw [List.foldl_map, List.length_map, Nat.zero_add, Nat.one_mul] at hlt
  exact hlt

theorem limit_eq : limit = 10 ^ maxDigits := by
  unfold limit
  -- The power itself is too large to be computed.
  generalize maxDigits = k
  exact Nat.pow_eq

theorem pow_le_limit {k : Nat} (h : k ≤ maxDigits) : 10 ^ k ≤ limit := by
  rw [limit_eq]
  exact Nat.pow_le_pow_right (by decide) h

/-- A run that is read is a number that can be written. -/
theorem lt_limit_of_read? {t : Text} {n : Nat} (hrun : IsRun t)
    (h : read? t = some n) : n < limit := by
  unfold read? at h
  split at h
  next hlength =>
    obtain rfl := Option.some.inj h
    exact Nat.lt_of_lt_of_le (value_lt hrun.2) (pow_le_limit hlength)
  next => simp at h

/-! ## Writing the value of a run -/

theorem digits_of_lt {n : Nat} (h : n < 10) : digits n = [digit n] := by
  rw [digits, Nat.toDigits_of_lt_base h]
  rfl

theorem digits_of_le {n : Nat} (h : 10 ≤ n) :
    digits n = digits (n / 10) ++ [digit (n % 10)] := by
  rw [digits, Nat.toDigits_of_base_le (by decide) h, List.map_append]
  rfl

theorem val_digit {d : Nat} (h : d < 10) : (digit d).val = 0x30 + d := by
  have htoNat := Nat.toNat_digitChar_of_lt_ten h
  simp only [digit, CodePoint.ofChar, htoNat]

theorem digit_sub {c : CodePoint} (h : c.isDigit = true) :
    digit (c.val - 0x30) = c := by
  have hrange := isDigit_iff.mp h
  apply Fin.ext
  rw [val_digit (by omega)]
  omega

theorem value_pos {c : CodePoint} {rest : Text} (hdigit : c.isDigit = true)
    (hc : c ≠ 0x30) : 0 < value (c :: rest) := by
  induction rest using List.reverseRecOn with
  | nil =>
      have hrange := isDigit_iff.mp hdigit
      have hne : c.val ≠ 0x30 := fun heq => hc (Fin.ext heq)
      rw [value_singleton]
      omega
  | append_singleton rest d ih =>
      rw [← List.cons_append, value_append_singleton]
      omega

/-- A run that begins with another digit than zero is what is written for its
value. -/
theorem digits_value_of_ne_zero {c : CodePoint} {rest : Text}
    (h : ∀ d ∈ c :: rest, d.isDigit = true) (hc : c ≠ 0x30) :
    digits (value (c :: rest)) = c :: rest := by
  have hdigit : c.isDigit = true := h c (by simp)
  induction rest using List.reverseRecOn with
  | nil =>
      have hrange := isDigit_iff.mp hdigit
      rw [value_singleton, digits_of_lt (by omega), digit_sub hdigit]
  | append_singleton rest d ih =>
      have hd : d.isDigit = true := h d (by simp)
      have hrange := isDigit_iff.mp hd
      have hpos : 0 < value (c :: rest) := value_pos hdigit hc
      have hrest : ∀ e ∈ c :: rest, e.isDigit = true := by
        intro e he
        rw [← List.cons_append] at h
        exact h e (List.mem_append_left [d] he)
      -- The last digit is split off; what stands before it is a run again.
      have hdiv : (10 * value (c :: rest) + (d.val - 0x30)) / 10 =
          value (c :: rest) := by omega
      have hmod : (10 * value (c :: rest) + (d.val - 0x30)) % 10 =
          d.val - 0x30 := by omega
      rw [← List.cons_append, value_append_singleton, digits_of_le (by omega),
        hdiv, hmod, ih hrest, digit_sub hd]

/-- What is written for the value of a run is the run without spare zeros. -/
theorem digits_value {t : Text} (h : IsRun t) :
    digits (value t) = stripZeros t := by
  obtain ⟨hne, hdigits⟩ := h
  fun_induction stripZeros t with
  | case1 => exact absurd rfl hne
  | case2 c =>
      have hc : c.isDigit = true := hdigits c (by simp)
      have hrange := isDigit_iff.mp hc
      rw [value_singleton, digits_of_lt (by omega), digit_sub hc]
  | case3 d rest ih =>
      rw [value_cons_zero]
      exact ih (by simp) fun e he => hdigits e (by simp [he])
  | case4 c d rest hc => exact digits_value_of_ne_zero hdigits hc

theorem isRun_stripZeros {t : Text} (h : IsRun t) : IsRun (stripZeros t) := by
  rw [← digits_value h]
  exact Bracketed.isRun_digits (value t)

theorem length_stripZeros_le (t : Text) :
    (stripZeros t).length ≤ t.length := by
  fun_induction stripZeros t with
  | case1 => exact Nat.le_refl _
  | case2 c => exact Nat.le_refl _
  | case3 d rest ih => exact Nat.le_succ_of_le ih
  | case4 c d rest hc => exact Nat.le_refl _

theorem stripZeros_eq_self_iff {t : Text} :
    stripZeros t = t ↔ ¬HasSpareZero t := by
  constructor
  · rintro h ⟨d, rest, rfl⟩
    have hlength := length_stripZeros_le (d :: rest)
    rw [stripZeros, if_pos rfl] at h
    rw [h, List.length_cons] at hlength
    omega
  · intro h
    fun_cases stripZeros t with
    | case1 => rfl
    | case2 c => rfl
    | case3 d rest => exact absurd ⟨d, rest, rfl⟩ h
    | case4 c d rest hc => rfl

end Numeral

end SourceSpans
