import SourceSpans.Numeral
import SourceSpans.Text.Lines

/-!
# Texts of one kind of code point

Much of what is said about a written text is that all its code points are of
one kind: that none breaks a line, that none is blank, or that all are printable
and of the ASCII range.  Such a property of a text is a property of its parts,
so it is proved once for concatenation and for joining with a separator.
-/

namespace SourceSpans

namespace CodePoint

/-- The code points that do not end a line. -/
def isInline (c : CodePoint) : Bool := !c.isLineBreak

/-- The code points that a word may hold. -/
def isSolid (c : CodePoint) : Bool := !c.isBlank

/-- The printable code points of the ASCII range, the space included. -/
def isPlain (c : CodePoint) : Bool := 0x20 ≤ c.val && c.val ≤ 0x7E

theorem isPlain_iff {c : CodePoint} :
    c.isPlain = true ↔ 0x20 ≤ c.val ∧ c.val ≤ 0x7E := by
  simp [isPlain]

theorem isInline_of_isPlain {c : CodePoint} (h : c.isPlain = true) :
    c.isInline = true := by
  have hrange := isPlain_iff.mp h
  simp only [isInline, isLineBreak, Bool.not_eq_true', Bool.or_eq_false_iff,
    Bool.and_eq_false_iff, decide_eq_false_iff_not, beq_eq_false_iff_ne]
  omega

theorem isPlain_of_isDigit {c : CodePoint} (h : c.isDigit = true) :
    c.isPlain = true := by
  simp only [isDigit, Bool.and_eq_true, decide_eq_true_eq] at h
  exact isPlain_iff.mpr (by omega)

theorem isSolid_of_isDigit {c : CodePoint} (h : c.isDigit = true) :
    c.isSolid = true := by
  simp only [isDigit, Bool.and_eq_true, decide_eq_true_eq] at h
  simp only [isSolid, isBlank, Bool.not_eq_true', Bool.or_eq_false_iff,
    Bool.and_eq_false_iff, decide_eq_false_iff_not, beq_eq_false_iff_ne]
  omega

end CodePoint

namespace Text

/-- All code points of a text are of a kind. -/
def Within (kind : CodePoint → Bool) (t : Text) : Prop :=
  ∀ c ∈ t, kind c = true

/-- A text that stays on one line. -/
abbrev Unbroken (t : Text) : Prop := t.Within CodePoint.isInline

/-- A text of printable ASCII code points. -/
abbrev Plain (t : Text) : Prop := t.Within CodePoint.isPlain

section Within

variable {kind : CodePoint → Bool}

instance (t : Text) : Decidable (t.Within kind) :=
  decidable_of_iff (t.all kind = true) List.all_eq_true

/-- For a text that is given in full the kind of its code points is computed. -/
theorem within_of_all {t : Text} (h : t.all kind = true) : t.Within kind :=
  List.all_eq_true.mp h

theorem Within.mono {other : CodePoint → Bool} {t : Text}
    (h : t.Within kind) (himp : ∀ c, kind c = true → other c = true) :
    t.Within other :=
  fun c hc => himp c (h c hc)

@[simp] theorem within_nil : Within kind [] := by
  simp [Within]

@[simp] theorem within_cons {c : CodePoint} {t : Text} :
    Within kind (c :: t) ↔ kind c = true ∧ Within kind t := by
  simp [Within]

@[simp] theorem within_append {s t : Text} :
    Within kind (s ++ t) ↔ Within kind s ∧ Within kind t := by
  simp [Within, or_imp, forall_and]

theorem within_ite {p : Prop} [Decidable p] {s t : Text}
    (hs : p → s.Within kind) (ht : ¬p → t.Within kind) :
    Within kind (if p then s else t) := by
  by_cases h : p
  · rw [if_pos h]
    exact hs h
  · rw [if_neg h]
    exact ht h

theorem within_flatMap {α : Type} {f : α → Text} {items : List α}
    (h : ∀ x ∈ items, (f x).Within kind) : Within kind (items.flatMap f) := by
  intro c hc
  obtain ⟨x, hx, hcx⟩ := List.mem_flatMap.mp hc
  exact h x hx c hcx

theorem within_join {separator : Text} {parts : List Text}
    (hseparator : separator.Within kind) (hparts : ∀ p ∈ parts, p.Within kind) :
    (join separator parts).Within kind := by
  induction parts with
  | nil => simp [join]
  | cons part rest ih =>
      have hpart := hparts part (by simp)
      cases rest with
      | nil => simpa [join] using hpart
      | cons next rest =>
          rw [join, within_append, within_append]
          exact ⟨⟨hpart, hseparator⟩, ih fun p hp => hparts p (by simp [hp])⟩

theorem within_digits {n : Nat} (h : ∀ c, c.isDigit = true → kind c = true) :
    (Numeral.digits n).Within kind :=
  fun c hc => h c (Numeral.isDigit_of_mem_digits hc)

end Within

theorem Plain.unbroken {t : Text} (h : t.Plain) : t.Unbroken :=
  h.mono fun _ => CodePoint.isInline_of_isPlain

theorem unbroken_iff {t : Text} :
    t.Unbroken ↔ ∀ c ∈ t, c.isLineBreak = false := by
  simp [Unbroken, Within, CodePoint.isInline]

/-! ## Lines -/

theorem unbroken_takeWhile (t : Text) :
    Unbroken (t.takeWhile fun c => !c.isLineBreak) := by
  have hall : (t.takeWhile fun c => !c.isLineBreak).all (fun c => !c.isLineBreak) =
      true := List.all_takeWhile
  exact within_of_all hall

theorem unbroken_of_mem_lines {t line : Text} (h : line ∈ lines t) :
    line.Unbroken := by
  fun_induction lines t with
  | case1 => simp at h
  | case2 c rest ih =>
      rcases List.mem_cons.mp h with rfl | hrest
      · exact unbroken_takeWhile (c :: rest)
      · exact ih hrest

theorem dropLineBreak_subset (t : Text) : dropLineBreak t ⊆ t := by
  match t with
  | [] => simp [dropLineBreak]
  | [_] => simp [dropLineBreak]
  | c :: d :: rest =>
      simp only [dropLineBreak]
      split
      next => exact fun e he => by simp [he]
      next => exact List.subset_cons_self c (d :: rest)

/-- The lines of a text hold nothing that is not in the text. -/
theorem within_of_mem_lines {kind : CodePoint → Bool} {t line : Text}
    (ht : t.Within kind) (h : line ∈ lines t) : line.Within kind := by
  fun_induction lines t with
  | case1 => simp at h
  | case2 c rest ih =>
      rcases List.mem_cons.mp h with rfl | hrest
      · exact fun d hd => ht d ((List.takeWhile_sublist _).subset hd)
      · refine ih (fun d hd => ?_) hrest
        exact ht d ((List.dropWhile_sublist _).subset (dropLineBreak_subset _ hd))

theorem lines_ofLines_of_unbroken {ls : List Text} (h : ∀ l ∈ ls, l.Unbroken) :
    lines (ofLines ls) = ls :=
  lines_ofLines fun l hl => unbroken_iff.mp (h l hl)

/-- Joining lines by line feeds and ending the last one is the same as ending
each of them. -/
theorem withNewline_join {ls : List Text} (h : ls ≠ []) :
    (join "\n" ls).withNewline = ofLines ls := by
  induction ls with
  | nil => exact absurd rfl h
  | cons line rest ih =>
      cases rest with
      | nil => simp [join, ofLines]
      | cons next rest =>
          calc
            (join "\n" (line :: next :: rest)).withNewline =
                line.withNewline ++ (join "\n" (next :: rest)).withNewline := by
              simp only [join, withNewline, List.append_assoc]
              rfl
            _ = line.withNewline ++ ofLines (next :: rest) := by rw [ih (by simp)]
            _ = ofLines (line :: next :: rest) := rfl

/-! ## Newlines of every system -/

theorem within_unifyNewlines {kind : CodePoint → Bool} {t : Text}
    (hfeed : kind 0x0A = true) (h : t.Within kind) :
    (unifyNewlines t).Within kind := by
  fun_induction unifyNewlines t with
  | case1 => exact h
  | case2 c =>
      rw [within_cons] at h ⊢
      refine ⟨?_, h.2⟩
      split
      next => exact hfeed
      next => exact h.1
  | case3 rest ih =>
      rw [within_cons, within_cons] at h
      exact within_cons.mpr ⟨hfeed, ih h.2.2⟩
  | case4 d rest hd ih =>
      rw [within_cons] at h
      exact within_cons.mpr ⟨hfeed, ih h.2⟩
  | case5 c d rest hc ih =>
      rw [within_cons] at h
      exact within_cons.mpr ⟨h.1, ih h.2⟩

theorem unifyNewlines_eq_self {t : Text} (h : (0x0D : CodePoint) ∉ t) :
    unifyNewlines t = t := by
  fun_induction unifyNewlines t with
  | case1 => rfl
  | case2 c =>
      have hc : c ≠ '\r' := fun hc => h (by simp only [hc]; exact List.mem_cons_self)
      rw [if_neg hc]
  | case3 rest ih => exact absurd List.mem_cons_self h
  | case4 d rest hd ih => exact absurd List.mem_cons_self h
  | case5 c d rest hc ih =>
      rw [ih fun hmem => h (List.mem_cons_of_mem c hmem)]

theorem return_not_mem_ofLines {ls : List Text} (h : ∀ l ∈ ls, l.Unbroken) :
    (0x0D : CodePoint) ∉ ofLines ls := by
  intro hmem
  obtain ⟨line, hline, hreturn⟩ := List.mem_flatMap.mp hmem
  rcases List.mem_append.mp hreturn with hin | hfeed
  · exact absurd (h line hline _ hin) (by decide)
  · exact absurd (List.mem_singleton.mp hfeed) (by decide)

/-! ## Words -/

theorem isWord_iff {t : Text} :
    IsWord t ↔ t ≠ [] ∧ t.Within CodePoint.isSolid := by
  simp [IsWord, Within, CodePoint.isSolid]

/-- A word stays one when code points other than blanks are added to it. -/
theorem IsWord.append {w t : Text} (hw : IsWord w)
    (ht : t.Within CodePoint.isSolid) : IsWord (w ++ t) := by
  obtain ⟨hne, hsolid⟩ := isWord_iff.mp hw
  exact isWord_iff.mpr ⟨by simp [hne], within_append.mpr ⟨hsolid, ht⟩⟩

/-- Words joined by spaces are read back as the same words. -/
theorem words_join {ws : List Text} (h : ∀ w ∈ ws, IsWord w) :
    words (join " " ws) = ws := by
  induction ws with
  | nil => simp [join]
  | cons w rest ih =>
      have hw := h w (by simp)
      cases rest with
      | nil => rw [join, words_of_isWord hw]
      | cons next rest =>
          have hspace : (" " : Text) = [0x20] := rfl
          have hblank : (0x20 : CodePoint).isBlank = true := by decide
          rw [join, List.append_assoc, hspace, List.singleton_append,
            words_append_blank hw hblank, ← hspace, ih fun v hv => h v (by simp [hv])]

end Text

end SourceSpans
