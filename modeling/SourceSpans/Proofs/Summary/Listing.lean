import SourceSpans.Proofs.Summary.Renewal
import SourceSpans.Summary

/-!
# Listings as files

A listing names every span of a walk but the first and the last by two lines, so
its lines hang together.  Each of them is the summary of the two spans that it
begins with, so a file that holds a listing is renewed to itself.
-/

namespace SourceSpans

open Text

namespace Summary

/-! ## The lines of a listing -/

/-- The line is about the pair. -/
def IsAbout (line : Text) (pair : Span × Span) : Prop :=
  line? pair.1 pair.2 = some line

theorem IsAbout.pairLine {line : Text} {pair : Span × Span}
    (h : IsAbout line pair) : pairLine pair = .ok line := by
  unfold Summary.pairLine
  rw [h]

theorem IsAbout.names {line : Text} {pair : Span × Span}
    (h : IsAbout line pair) :
    line.words[0]? = Bracketed.ofSpan? pair.1 ∧
      line.words[1]? = Bracketed.ofSpan? pair.2 := by
  obtain ⟨nameA, nameB, enclosing, gap, inner, overlaps, hnameA, hnameB,
    henclosing, hgap, hinner, hoverlaps, rfl⟩ := exists_words_of_line? h
  rw [words_join_parts hnameA hnameB henclosing hgap hinner hoverlaps, hnameA,
    hnameB]
  exact ⟨rfl, rfl⟩

/-- The second word of the one line is the first word of the other. -/
def LeadsTo (line next : Text) : Prop :=
  ∃ name, line.words[1]? = some name ∧ next.words[0]? = some name

theorem IsAbout.leadsTo {line next : Text} {a b c : Span}
    (hline : IsAbout line (a, b)) (hnext : IsAbout next (b, c)) :
    LeadsTo line next := by
  obtain ⟨-, nameB, -, -, -, -, -, hnameB, -, -, -, -, -⟩ :=
    exists_words_of_line? hline
  exact ⟨nameB, hline.names.2.trans hnameB, hnext.names.1.trans hnameB⟩

theorem length_neighbours (ss : List Span) :
    (neighbours ss).length = ss.length - 1 := by
  fun_induction neighbours ss with
  | case1 => rfl
  | case2 a => rfl
  | case3 a b rest ih => simpa using ih

/-- The lines are about each two neighbours among the spans. -/
def Lists (ss : List Span) (lines : List Text) : Prop :=
  List.Forall₂ (fun pair line => IsAbout line pair) (neighbours ss) lines

/-- Spans that can be written are listed to the last line. -/
theorem exists_lists_of_lt {ss : List Span}
    (h : ∀ s ∈ ss, s.stop < Numeral.limit) :
    ∃ lines, listing ss = lines.map .ok ∧ Lists ss lines := by
  unfold listing Lists
  fun_induction neighbours ss with
  | case1 => exact ⟨[], rfl, .nil⟩
  | case2 a => exact ⟨[], rfl, .nil⟩
  | case3 a b rest ih =>
    obtain ⟨ha, hrest⟩ := List.forall_mem_cons.mp h
    obtain ⟨line, hline⟩ := exists_line?_of_lt ha (hrest b List.mem_cons_self)
    obtain ⟨lines, hlines, hlists⟩ := ih hrest
    exact ⟨line :: lines,
      congrArg₂ List.cons (IsAbout.pairLine hline) hlines,
      .cons hline hlists⟩

/-- Each line names the span that the next one begins with. -/
theorem Lists.isChain {ss : List Span} {lines : List Text}
    (h : Lists ss lines) : lines.IsChain LeadsTo := by
  unfold Lists at h
  fun_induction neighbours ss generalizing lines with
  | case1 =>
    rw [List.forall₂_nil_left_iff.mp h]
    exact .nil
  | case2 a =>
    rw [List.forall₂_nil_left_iff.mp h]
    exact .nil
  | case3 a b rest ih =>
    obtain ⟨line, others, hline, hothers, rfl⟩ := List.forall₂_cons_left_iff.mp h
    have hchain := ih hothers
    cases rest with
    | nil =>
      rw [List.forall₂_nil_left_iff.mp hothers]
      exact .singleton line
    | cons c rest =>
      obtain ⟨next, more, hnext, -, rfl⟩ := List.forall₂_cons_left_iff.mp hothers
      exact .cons_cons (hline.leadsTo hnext) hchain

/-! ## Renewing a listing -/

variable {ss : List Span} {lines : List Text}

theorem Lists.exists_isAbout (h : Lists ss lines) {line : Text}
    (hline : line ∈ lines) : ∃ pair, IsAbout line pair := by
  obtain ⟨pair, -, habout⟩ := Success.exists_of_mem_forall₂ h hline
  exact ⟨pair, habout⟩

theorem Lists.plain (h : Lists ss lines) : ∀ line ∈ lines, line.Plain := by
  intro line hline
  obtain ⟨pair, habout⟩ := h.exists_isAbout hline
  exact plain_of_line? habout

theorem Lists.lines_ofLines (h : Lists ss lines) :
    (ofLines lines).lines = lines :=
  lines_ofLines_of_unbroken fun line hline => (h.plain line hline).unbroken

/-- No line of a listing is changed by renewing it. -/
theorem Lists.renew (h : Lists ss lines) (hne : lines ≠ []) :
    renew (ofLines lines) = .ok (ofLines lines) := by
  rw [renew_eq_ok_iff, unifyNewlines_ofLines fun line hline =>
    (h.plain line hline).unbroken, h.lines_ofLines]
  refine ⟨lines, List.forall₂_same.mpr ?_, by rw [atLeastOne_of_ne_nil hne]⟩
  intro line hline
  obtain ⟨pair, habout⟩ := h.exists_isAbout hline
  exact .inr ⟨isKept_of_line? habout, isSummaryOf_of_line? habout⟩

theorem Lists.decode_encode (h : Lists ss lines) :
    Utf8.decode (Utf8.encode (ofLines lines)) = .ok (ofLines lines) := by
  apply Utf8.decode_encode
  apply within_flatMap
  intro line hline
  exact within_append.mpr
    ⟨(h.plain line hline).mono fun _ => CodePoint.isScalar_of_isPlain, by decide⟩

theorem Lists.renewBytes (h : Lists ss lines) (hne : lines ≠ []) :
    renewBytes (Utf8.encode (ofLines lines)) =
      .ok (Utf8.encode (ofLines lines)) :=
  renewBytes_eq_ok_iff.mpr ⟨_, _, h.decode_encode, h.renew hne, rfl⟩

end Summary

end SourceSpans
