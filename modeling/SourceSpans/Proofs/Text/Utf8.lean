import SourceSpans.Proofs.Text.Within
import SourceSpans.Text.Utf8
import Mathlib.Algebra.Group.Nat.Defs

/-!
# UTF-8 there and back

A text without surrogates is read back from its bytes, and what is read from
bytes holds no surrogate.  The first statement follows one code point through
the reader; the second is an invariant of the sequence that the reader is
inside of: whatever bytes complete it, the number they make is no surrogate.
-/

namespace SourceSpans

namespace CodePoint

/-- The code points that stand for characters of their own. -/
def isScalar (c : CodePoint) : Bool := !c.isSurrogate

theorem isScalar_iff {c : CodePoint} :
    c.isScalar = true ↔ c.val < 0xD800 ∨ 0xDFFF < c.val := by
  simp only [isScalar, isSurrogate, Bool.not_eq_true', Bool.and_eq_false_iff,
    decide_eq_false_iff_not, Nat.not_le]

theorem ofNat_val (c : CodePoint) : ofNat c.val = c := by
  simp [ofNat]

theorem isScalar_ofNat {n : Nat} (h : n < 0xD800 ∨ 0xDFFF < n) :
    (ofNat n).isScalar = true := by
  unfold ofNat
  split
  next => exact isScalar_iff.mpr h
  next => decide

end CodePoint

namespace Utf8

/-! ## One step of the reader -/

section Steps

variable {position : Nat} {b : UInt8} {p : Pending} {rest : List UInt8}

theorem decodeFrom_ascii (h : b.toNat < 0x80) :
    decodeFrom position none (b :: rest) =
      (decodeFrom (position + 1) none rest).map
        (CodePoint.ofNat b.toNat :: ·) := by
  rw [decodeFrom, if_pos h]

theorem decodeFrom_begin (h : 0x80 ≤ b.toNat) (hbegin : Pending.begin? b = some p) :
    decodeFrom position none (b :: rest) =
      decodeFrom (position + 1) (some p) rest := by
  rw [decodeFrom, if_neg (Nat.not_lt.mpr h), hbegin]

theorem decodeFrom_push (hlow : p.low ≤ b.toNat) (hhigh : b.toNat ≤ p.high)
    (howed : p.owed ≠ 1) :
    decodeFrom position (some p) (b :: rest) =
      decodeFrom (position + 1) (some (p.push b)) rest := by
  rw [decodeFrom, if_pos ⟨hlow, hhigh⟩, if_neg howed]

theorem decodeFrom_last (hlow : p.low ≤ b.toNat) (hhigh : b.toNat ≤ p.high)
    (howed : p.owed = 1) :
    decodeFrom position (some p) (b :: rest) =
      (decodeFrom (position + 1) none rest).map
        (CodePoint.ofNat (p.bitsWith b) :: ·) := by
  rw [decodeFrom, if_pos ⟨hlow, hhigh⟩, if_pos howed]

end Steps

/-! ## Reading what is written -/

theorem toNat_ofNat_of_lt {n : Nat} (h : n < 256) : (UInt8.ofNat n).toNat = n := by
  simp only [UInt8.toNat_ofNat']
  omega

theorem toNat_continuation (n : Nat) : (continuation n).toNat = 0x80 + n % 64 := by
  rw [continuation, toNat_ofNat_of_lt (by omega)]

/-- The last bytes of the sequence for a number, six bits in each. -/
def tails : Nat → Nat → List UInt8
  | 0, _ => []
  | count + 1, n => continuation (n / 64 ^ count) :: tails count n

/-- The sequence read so far is the beginning of the one for a number. -/
structure Pending.Expects (p : Pending) (n : Nat) : Prop where
  bits_eq : p.bits = n / 64 ^ p.owed
  low_le : p.low ≤ 0x80 + n / 64 ^ (p.owed - 1) % 64
  le_high : 0x80 + n / 64 ^ (p.owed - 1) % 64 ≤ p.high

/-- The next byte adds six bits of the number. -/
theorem Pending.Expects.bitsWith {p : Pending} {n count : Nat}
    (h : p.Expects n) (howed : p.owed = count + 1) :
    p.bitsWith (continuation (n / 64 ^ count)) = n / 64 ^ count := by
  have hbits := h.bits_eq
  rw [howed, Nat.pow_succ, ← Nat.div_div_eq_div_mul] at hbits
  have hbyte := toNat_continuation (n / 64 ^ count)
  unfold Pending.bitsWith
  generalize n / 64 ^ count = m at hbits hbyte ⊢
  omega

theorem Pending.Expects.push {p : Pending} {n count : Nat}
    (h : p.Expects n) (howed : p.owed = count + 2) :
    (p.push (continuation (n / 64 ^ (count + 1)))).Expects n := by
  have hnext : (p.push (continuation (n / 64 ^ (count + 1)))).owed = count + 1 := by
    simp [Pending.push, howed]
  refine ⟨?_, ?_, ?_⟩
  · rw [hnext]
    exact h.bitsWith howed
  · exact Nat.le_add_right _ _
  · simp only [Pending.push]
    omega

/-- What completes a sequence is read as the number that it is expected for. -/
theorem decodeFrom_tails {p : Pending} {n count : Nat} (h : p.Expects n)
    (howed : p.owed = count + 1) (position : Nat) (rest : List UInt8) :
    ∃ next, decodeFrom position (some p) (tails (count + 1) n ++ rest) =
      (decodeFrom next none rest).map (CodePoint.ofNat n :: ·) := by
  induction count generalizing p position with
  | zero =>
      have hlow := h.low_le
      have hhigh := h.le_high
      rw [howed, Nat.zero_add, Nat.sub_self, Nat.pow_zero, Nat.div_one] at hlow hhigh
      have hbits := h.bitsWith howed
      rw [Nat.pow_zero, Nat.div_one] at hbits
      have htails : tails (0 + 1) n = [continuation n] := by
        simp [tails]
      refine ⟨position + 1, ?_⟩
      rw [htails, List.singleton_append,
        decodeFrom_last (by rwa [toNat_continuation])
          (by rwa [toNat_continuation]) howed, hbits]
  | succ count ih =>
      have hlow := h.low_le
      have hhigh := h.le_high
      rw [howed, Nat.add_sub_cancel] at hlow hhigh
      have hnext : (p.push (continuation (n / 64 ^ (count + 1)))).owed =
          count + 1 := by
        simp [Pending.push, howed]
      obtain ⟨next, hread⟩ := ih (h.push howed) hnext (position + 1)
      refine ⟨next, ?_⟩
      rw [tails, List.cons_append,
        decodeFrom_push (by rwa [toNat_continuation])
          (by rwa [toNat_continuation]) (by omega), hread]

/-- A code point above the ASCII range is written by a byte that begins a
sequence and by the bytes that this sequence expects. -/
theorem encodeCodePoint_eq_tails {c : CodePoint} (h : c.isScalar = true)
    (hc : 0x80 ≤ c.val) :
    ∃ lead p count, encodeCodePoint c = lead :: tails (count + 1) c.val ∧
      0x80 ≤ lead.toNat ∧ Pending.begin? lead = some p ∧
      p.owed = count + 1 ∧ p.Expects c.val := by
  have hrange := CodePoint.isScalar_iff.mp h
  have hlt := c.isLt
  by_cases htwo : c.val < 0x800
  · have hlead := toNat_ofNat_of_lt (n := 0xC0 + c.val / 64) (by omega)
    refine ⟨UInt8.ofNat (0xC0 + c.val / 64),
      ⟨UInt8.ofNat (0xC0 + c.val / 64), 1, 1, 0x80, 0xBF, c.val / 64⟩, 0,
      ?_, by omega, ?_, rfl, ⟨by simp, by simp, ?_⟩⟩
    · simp [encodeCodePoint, tails, Nat.not_lt.mpr hc, htwo]
    · rw [Pending.begin?, hlead, if_pos (by omega), Nat.add_sub_cancel_left]
    · simp only
      omega
  · by_cases hthree : c.val < 0x10000
    · have hlead := toNat_ofNat_of_lt (n := 0xE0 + c.val / 4096) (by omega)
      refine ⟨UInt8.ofNat (0xE0 + c.val / 4096),
        ⟨UInt8.ofNat (0xE0 + c.val / 4096), 1, 2,
          if 0xE0 + c.val / 4096 = 0xE0 then 0xA0 else 0x80,
          if 0xE0 + c.val / 4096 = 0xED then 0x9F else 0xBF, c.val / 4096⟩, 1,
        ?_, by omega, ?_, rfl, ⟨by simp, ?_, ?_⟩⟩
      · simp [encodeCodePoint, tails, Nat.not_lt.mpr hc, htwo, hthree]
      · rw [Pending.begin?, hlead, if_neg (by omega), if_pos (by omega),
          Nat.add_sub_cancel_left]
      · simp only
        split <;> omega
      · simp only
        split <;> omega
    · have hlead := toNat_ofNat_of_lt (n := 0xF0 + c.val / 262144) (by omega)
      refine ⟨UInt8.ofNat (0xF0 + c.val / 262144),
        ⟨UInt8.ofNat (0xF0 + c.val / 262144), 1, 3,
          if 0xF0 + c.val / 262144 = 0xF0 then 0x90 else 0x80,
          if 0xF0 + c.val / 262144 = 0xF4 then 0x8F else 0xBF, c.val / 262144⟩, 2,
        ?_, by omega, ?_, rfl, ⟨by simp, ?_, ?_⟩⟩
      · simp [encodeCodePoint, tails, Nat.not_lt.mpr hc, htwo, hthree]
      · rw [Pending.begin?, hlead, if_neg (by omega), if_neg (by omega),
          if_pos (by omega), Nat.add_sub_cancel_left]
      · simp only
        split <;> omega
      · simp only
        split <;> omega

/-- The bytes of a code point are read as that code point. -/
theorem decodeFrom_encodeCodePoint {c : CodePoint} (h : c.isScalar = true)
    (position : Nat) (rest : List UInt8) :
    ∃ next, decodeFrom position none (encodeCodePoint c ++ rest) =
      (decodeFrom next none rest).map (c :: ·) := by
  by_cases hc : c.val < 0x80
  · have hbyte := toNat_ofNat_of_lt (n := c.val) (by omega)
    have hbytes : encodeCodePoint c = [UInt8.ofNat c.val] := by
      simp [encodeCodePoint, hc]
    refine ⟨position + 1, ?_⟩
    rw [hbytes, List.singleton_append, decodeFrom_ascii (by omega), hbyte,
      CodePoint.ofNat_val]
  · obtain ⟨lead, p, count, hbytes, hlead, hbegin, howed, hexpects⟩ :=
      encodeCodePoint_eq_tails h (Nat.le_of_not_lt hc)
    obtain ⟨next, hread⟩ := decodeFrom_tails hexpects howed (position + 1) rest
    refine ⟨next, ?_⟩
    rw [hbytes, List.cons_append, decodeFrom_begin hlead hbegin, hread,
      CodePoint.ofNat_val]

theorem decodeFrom_encode {t : Text} (h : t.Within CodePoint.isScalar)
    (position : Nat) : decodeFrom position none (encode t) = .ok t := by
  induction t generalizing position with
  | nil => simp [encode, decodeFrom]
  | cons c rest ih =>
      obtain ⟨hc, hrest⟩ := Text.within_cons.mp h
      obtain ⟨next, hread⟩ := decodeFrom_encodeCodePoint hc position (encode rest)
      rw [encode, List.flatMap_cons, ← encode, hread, ih hrest]
      rfl

/-- A text without surrogates is read back from its bytes. -/
theorem decode_encode {t : Text} (h : t.Within CodePoint.isScalar) :
    decode (encode t) = .ok t :=
  decodeFrom_encode h 0

/-! ## What is read holds no surrogate -/

/-- No byte sequence that completes the one begun makes a surrogate.  The least
and the greatest number it can make lie on one side of the surrogates. -/
def Pending.Safe (p : Pending) : Prop :=
  0x80 ≤ p.low ∧
    (p.owed = 1 ∧ (p.bits * 64 + (p.high - 0x80) < 0xD800 ∨
        0xDFFF < p.bits * 64 + (p.low - 0x80)) ∨
      p.owed = 2 ∧ (p.bits * 4096 + (p.high - 0x80) * 64 + 63 < 0xD800 ∨
        0xDFFF < p.bits * 4096 + (p.low - 0x80) * 64) ∨
      p.owed = 3 ∧ 0xDFFF < p.bits * 262144 + (p.low - 0x80) * 4096)

theorem Pending.safe_of_begin? {b : UInt8} {p : Pending}
    (h : Pending.begin? b = some p) : p.Safe := by
  have hb := b.toNat_lt
  unfold Pending.begin? at h
  unfold Pending.Safe
  simp only at h
  split at h
  next =>
    obtain rfl := Option.some.inj h
    dsimp only
    omega
  next =>
    split at h
    next =>
      obtain rfl := Option.some.inj h
      dsimp only
      split <;> split <;> omega
    next =>
      split at h
      next =>
        obtain rfl := Option.some.inj h
        dsimp only
        split <;> omega
      next => simp at h

theorem Pending.Safe.push {p : Pending} {b : UInt8} (h : p.Safe)
    (hlow : p.low ≤ b.toNat) (hhigh : b.toNat ≤ p.high) (howed : p.owed ≠ 1) :
    (p.push b).Safe := by
  have hlowNext : (p.push b).low = 0x80 := rfl
  have hhighNext : (p.push b).high = 0xBF := rfl
  have howedNext : (p.push b).owed = p.owed - 1 := rfl
  have hbitsNext : (p.push b).bits = p.bits * 64 + (b.toNat - 0x80) := rfl
  unfold Pending.Safe at h ⊢
  omega

theorem Pending.Safe.isScalar_last {p : Pending} {b : UInt8} (h : p.Safe)
    (hlow : p.low ≤ b.toNat) (hhigh : b.toNat ≤ p.high) (howed : p.owed = 1) :
    CodePoint.isScalar (CodePoint.ofNat (p.bitsWith b)) = true := by
  have hbits : p.bitsWith b = p.bits * 64 + (b.toNat - 0x80) := rfl
  unfold Pending.Safe at h
  apply CodePoint.isScalar_ofNat
  omega

theorem within_isScalar_of_map {c : CodePoint} {read : Except Malformed Text}
    {t : Text} (hc : c.isScalar = true)
    (hread : ∀ u, read = .ok u → u.Within CodePoint.isScalar)
    (h : read.map (c :: ·) = .ok t) : t.Within CodePoint.isScalar := by
  cases read with
  | error m => simp [Except.map] at h
  | ok u =>
      obtain rfl := Except.ok.inj h
      exact Text.within_cons.mpr ⟨hc, hread u rfl⟩

theorem within_isScalar_of_decodeFrom {position : Nat} {pending : Option Pending}
    {bytes : List UInt8} {t : Text} (hsafe : ∀ p, pending = some p → p.Safe)
    (h : decodeFrom position pending bytes = .ok t) :
    t.Within CodePoint.isScalar := by
  fun_induction decodeFrom position pending bytes generalizing t with
  | case1 =>
      obtain rfl := Except.ok.inj h
      simp
  | case2 => simp at h
  | case3 position b rest hascii ih =>
      refine within_isScalar_of_map (CodePoint.isScalar_ofNat (by omega))
        (fun u hu => ?_) h
      exact ih (by simp) hu
  | case4 => simp at h
  | case5 position b rest hascii p hbegin ih =>
      exact ih (fun q hq => Option.some.inj hq ▸ Pending.safe_of_begin? hbegin) h
  | case6 position p b rest hbounds howed ih =>
      refine within_isScalar_of_map ?_ (fun u hu => ih (by simp) hu) h
      exact (hsafe p rfl).isScalar_last hbounds.1 hbounds.2 howed
  | case7 position p b rest hbounds howed ih =>
      refine ih (fun q hq => ?_) h
      exact Option.some.inj hq ▸ (hsafe p rfl).push hbounds.1 hbounds.2 howed
  | case8 => simp at h

/-- What is read from bytes holds no surrogate. -/
theorem within_isScalar_of_decode {bytes : List UInt8} {t : Text}
    (h : decode bytes = .ok t) : t.Within CodePoint.isScalar :=
  within_isScalar_of_decodeFrom (by simp) h

end Utf8

end SourceSpans
