import SourceSpans.Proofs.Success
import SourceSpans.Proofs.Summary.Line
import SourceSpans.Proofs.Text.Utf8
import SourceSpans.Tool.Summaries

/-!
# Renewing twice

A renewed file has one line for each line of the file before.  Lines that were
kept are kept again, and a summary is a summary of its own first two words, so
renewing the file once more changes nothing.  The argument is made for one line
and carried over to files by what lines, words and bytes do to a text that is
put out line by line.
-/

namespace SourceSpans

open Text Success

theorem CodePoint.isScalar_of_isPlain {c : CodePoint} (h : c.isPlain = true) :
    c.isScalar = true := by
  have hrange := isPlain_iff.mp h
  exact isScalar_iff.mpr (by omega)

namespace Summary

/-- The first text is the summary of the two spans that the second begins
with. -/
def IsSummaryOf (summary line : Text) : Prop :=
  ∃ first second rest a b, line.words = first :: second :: rest ∧
    (Value.text first).readSpan.1 = .ok a ∧
    (Value.text second).readSpan.1 = .ok b ∧
    (Value.span a).summary (.span b) = .ok summary

/-- What becomes of a line: blank lines and comments stay as they are, and the
others are written anew. -/
def Renews (line renewed : Text) : Prop :=
  isKept line = true ∧ renewed = line ∨
    isKept line = false ∧ IsSummaryOf renewed line

/-- The lines of a file that is never without a line. -/
def atLeastOne : List Text → List Text
  | [] => [[]]
  | lines => lines

/-! ## One line -/

theorem wordSpan_eq_ok_iff {word : Text} {s : Span} :
    wordSpan word = .ok s ↔ (Value.text word).readSpan.1 = .ok s :=
  mapError_eq_ok_iff

theorem renewWords_eq_ok_iff {ws : List Text} {renewed : Text} :
    renewWords ws = .ok renewed ↔
      ∃ first second rest a b, ws = first :: second :: rest ∧
        (Value.text first).readSpan.1 = .ok a ∧
        (Value.text second).readSpan.1 = .ok b ∧
        (Value.span a).summary (.span b) = .ok renewed := by
  constructor
  · intro h
    match ws with
    | [] => simp [renewWords] at h
    | [_] => simp [renewWords] at h
    | first :: second :: rest =>
        obtain ⟨a, ha, h⟩ := bind_eq_ok_iff.mp h
        obtain ⟨b, hb, h⟩ := bind_eq_ok_iff.mp h
        split at h
        next line hline =>
          obtain rfl := Except.ok.inj h
          exact ⟨first, second, rest, a, b, rfl, wordSpan_eq_ok_iff.mp ha,
            wordSpan_eq_ok_iff.mp hb, Value.summary_span_eq_ok_iff.mpr hline⟩
        next => simp at h
  · rintro ⟨first, second, rest, a, b, rfl, ha, hb, hline⟩
    have hwritten := Value.summary_span_eq_ok_iff.mp hline
    refine bind_eq_ok_iff.mpr ⟨a, wordSpan_eq_ok_iff.mpr ha, ?_⟩
    refine bind_eq_ok_iff.mpr ⟨b, wordSpan_eq_ok_iff.mpr hb, ?_⟩
    rw [hwritten]

theorem renewLine_eq_ok_iff {line renewed : Text} :
    renewLine line = .ok renewed ↔ Renews line renewed := by
  unfold renewLine Renews IsSummaryOf
  cases hkept : isKept line with
  | true => simp [eq_comm]
  | false => simp [renewWords_eq_ok_iff]

theorem isKept_of_line? {a b : Span} {line : Text} (h : line? a b = some line) :
    isKept line = false := by
  have hhead := head?_of_line? h
  cases line with
  | nil => simp at hhead
  | cons c rest =>
      obtain rfl := Option.some.inj hhead
      have hsolid : (0x5B : CodePoint).isBlank = false := by decide
      have hmark : (some (0x5B : CodePoint) == some ('#' : CodePoint)) = false := by
        decide
      simp [isKept, Text.isBlank, hsolid, hmark]

/-- A line that begins with the texts of two spans can be written anew: what is
read can always be written again. -/
theorem exists_isSummaryOf {line first second : Text} {rest : List Text}
    {a b : Span} (hwords : line.words = first :: second :: rest)
    (ha : Bracketed.read first = .ok a) (hb : Bracketed.read second = .ok b) :
    ∃ summary, IsSummaryOf summary line := by
  obtain ⟨summary, hsummary⟩ :=
    exists_line?_of_lt (Bracketed.stop_lt_of_read ha) (Bracketed.stop_lt_of_read hb)
  exact ⟨summary, first, second, rest, a, b, hwords,
    Value.readSpan_fst_text.mpr ha, Value.readSpan_fst_text.mpr hb,
    Value.summary_span_eq_ok_iff.mpr hsummary⟩

/-- A line about two spans is the summary of its own first two words. -/
theorem isSummaryOf_of_line? {a b : Span} {line : Text}
    (h : line? a b = some line) : IsSummaryOf line line := by
  obtain ⟨nameA, nameB, rest, hwords, hreadA, hreadB⟩ := words_of_line? h
  exact ⟨nameA, nameB, rest, a, b, hwords, Value.readSpan_fst_text.mpr hreadA,
    Value.readSpan_fst_text.mpr hreadB, Value.summary_span_eq_ok_iff.mpr h⟩

theorem IsSummaryOf.self {summary line : Text} (h : IsSummaryOf summary line) :
    IsSummaryOf summary summary := by
  obtain ⟨-, -, -, a, b, -, -, -, hsummary⟩ := h
  exact isSummaryOf_of_line? (Value.summary_span_eq_ok_iff.mp hsummary)

theorem IsSummaryOf.isKept {summary line : Text} (h : IsSummaryOf summary line) :
    isKept summary = false := by
  obtain ⟨-, -, -, a, b, -, -, -, hsummary⟩ := h
  exact isKept_of_line? (Value.summary_span_eq_ok_iff.mp hsummary)

theorem IsSummaryOf.plain {summary line : Text} (h : IsSummaryOf summary line) :
    summary.Plain := by
  obtain ⟨-, -, -, a, b, -, -, -, hsummary⟩ := h
  exact plain_of_line? (Value.summary_span_eq_ok_iff.mp hsummary)

theorem Renews.self {line renewed : Text} (h : Renews line renewed) :
    Renews renewed renewed := by
  rcases h with ⟨hkept, rfl⟩ | ⟨-, hsummary⟩
  · exact Or.inl ⟨hkept, rfl⟩
  · exact Or.inr ⟨hsummary.isKept, hsummary.self⟩

/-- A renewed line has only code points that the line had, and printable ASCII. -/
theorem Renews.within {kind : CodePoint → Bool} {line renewed : Text}
    (h : Renews line renewed) (hplain : ∀ c, c.isPlain = true → kind c = true)
    (hline : line.Within kind) : renewed.Within kind := by
  rcases h with ⟨-, rfl⟩ | ⟨-, hsummary⟩
  · exact hline
  · exact hsummary.plain.mono hplain

/-! ## All lines -/

theorem renewLines_eq_mapM (ls : List Text) : renewLines ls = ls.mapM renewLine := by
  induction ls with
  | nil => rfl
  | cons line rest ih => rw [renewLines, ih, List.mapM_cons]

theorem renewLines_eq_ok_iff {ls ms : List Text} :
    renewLines ls = .ok ms ↔ List.Forall₂ Renews ls ms := by
  simp only [renewLines_eq_mapM, mapM_eq_ok_iff, renewLine_eq_ok_iff]

theorem forall₂_renews_self {ls ms : List Text} (h : List.Forall₂ Renews ls ms) :
    List.Forall₂ Renews ms ms := by
  rw [List.forall₂_same]
  intro renewed hmem
  obtain ⟨line, -, hrenews⟩ := exists_of_mem_forall₂ h hmem
  exact hrenews.self

theorem forall₂_renews_atLeastOne {ls ms : List Text}
    (h : List.Forall₂ Renews ls ms) :
    List.Forall₂ Renews (atLeastOne ls) (atLeastOne ms) := by
  cases h with
  | nil => exact .cons (Or.inl ⟨by decide, rfl⟩) .nil
  | cons hrenews hrest => exact .cons hrenews hrest

theorem atLeastOne_ne_nil (ls : List Text) : atLeastOne ls ≠ [] := by
  cases ls <;> simp [atLeastOne]

theorem atLeastOne_of_ne_nil {ls : List Text} (h : ls ≠ []) : atLeastOne ls = ls := by
  cases ls with
  | nil => exact absurd rfl h
  | cons line rest => rfl

theorem withNewline_join_eq (ls : List Text) :
    (join "\n" ls).withNewline = ofLines (atLeastOne ls) := by
  cases ls with
  | nil => rfl
  | cons line rest => exact withNewline_join (List.cons_ne_nil line rest)

/-! ## Files -/

/-- The renewed contents of a file are its renewed lines, each of them ended. -/
theorem renew_eq_ok_iff {contents renewed : Text} :
    renew contents = .ok renewed ↔
      ∃ ms, List.Forall₂ Renews contents.unifyNewlines.lines ms ∧
        renewed = ofLines (atLeastOne ms) := by
  rw [renew, map_eq_ok_iff]
  constructor
  · rintro ⟨ms, hlines, rfl⟩
    exact ⟨ms, renewLines_eq_ok_iff.mp hlines, withNewline_join_eq ms⟩
  · rintro ⟨ms, hrenews, rfl⟩
    exact ⟨ms, renewLines_eq_ok_iff.mpr hrenews, withNewline_join_eq ms⟩

/-- What is put out for lines without breaks inside is read as these lines. -/
theorem unifyNewlines_ofLines {ls : List Text} (h : ∀ l ∈ ls, l.Unbroken) :
    unifyNewlines (ofLines ls) = ofLines ls :=
  unifyNewlines_eq_self (return_not_mem_ofLines h)

/-- The lines of a renewed file, and what is known of them. -/
theorem exists_lines_of_renew {contents renewed : Text}
    (h : renew contents = .ok renewed) :
    List.Forall₂ Renews (atLeastOne contents.unifyNewlines.lines) renewed.lines ∧
      renewed = ofLines renewed.lines ∧ renewed.unifyNewlines = renewed ∧
      renewed.lines ≠ [] := by
  obtain ⟨ms, hrenews, rfl⟩ := renew_eq_ok_iff.mp h
  have hone := forall₂_renews_atLeastOne hrenews
  have hunbroken : ∀ l ∈ atLeastOne ms, l.Unbroken := by
    intro l hl
    obtain ⟨line, hline, hrenewed⟩ := exists_of_mem_forall₂ hone hl
    apply hrenewed.within fun _ => CodePoint.isInline_of_isPlain
    cases hlines : contents.unifyNewlines.lines with
    | nil =>
        rw [hlines, atLeastOne, List.mem_singleton] at hline
        simp [hline]
    | cons first rest =>
        rw [atLeastOne_of_ne_nil (by simp [hlines])] at hline
        exact unbroken_of_mem_lines hline
  rw [lines_ofLines_of_unbroken hunbroken]
  exact ⟨hone, rfl, unifyNewlines_ofLines hunbroken, atLeastOne_ne_nil ms⟩

/-- Renewing renewed contents changes nothing. -/
theorem renew_renew {contents renewed : Text} (h : renew contents = .ok renewed) :
    renew renewed = .ok renewed := by
  obtain ⟨hrenews, hlines, hunify, hne⟩ := exists_lines_of_renew h
  rw [renew_eq_ok_iff, hunify]
  exact ⟨renewed.lines, forall₂_renews_self hrenews,
    by rw [atLeastOne_of_ne_nil hne, ← hlines]⟩

/-- Renewing brings no surrogate into a file. -/
theorem within_isScalar_of_renew {contents renewed : Text}
    (h : renew contents = .ok renewed)
    (hcontents : contents.Within CodePoint.isScalar) :
    renewed.Within CodePoint.isScalar := by
  have hfeed : (0x0A : CodePoint).isScalar = true := by decide
  obtain ⟨ms, hrenews, rfl⟩ := renew_eq_ok_iff.mp h
  refine within_flatMap fun l hl => within_append.mpr ⟨?_, by simpa using hfeed⟩
  cases ms with
  | nil =>
      rw [atLeastOne, List.mem_singleton] at hl
      simp [hl]
  | cons first rest =>
      obtain ⟨line, hline, hrenewed⟩ := exists_of_mem_forall₂ hrenews hl
      apply hrenewed.within fun _ => CodePoint.isScalar_of_isPlain
      exact within_of_mem_lines (within_unifyNewlines hfeed hcontents) hline

/-! ## The tool -/

theorem renewBytes_eq_ok_iff {bytes after : List UInt8} :
    renewBytes bytes = .ok after ↔
      ∃ contents renewed, Utf8.decode bytes = .ok contents ∧
        renew contents = .ok renewed ∧ after = Utf8.encode renewed := by
  constructor
  · intro h
    obtain ⟨contents, hdecode, h⟩ := bind_eq_ok_iff.mp h
    obtain ⟨renewed, hrenew, h⟩ := bind_eq_ok_iff.mp h
    exact ⟨contents, renewed, mapError_eq_ok_iff.mp hdecode, hrenew,
      (Except.ok.inj h).symm⟩
  · rintro ⟨contents, renewed, hdecode, hrenew, rfl⟩
    refine bind_eq_ok_iff.mpr ⟨contents, mapError_eq_ok_iff.mpr hdecode, ?_⟩
    exact bind_eq_ok_iff.mpr ⟨renewed, hrenew, rfl⟩

end Summary

theorem renewalTool_of_renewBytes {path : Text} {bytes after : List UInt8}
    (h : Summary.renewBytes bytes = .ok after) :
    renewalTool path bytes = ⟨⟨.status 0, path.withNewline, []⟩, after⟩ := by
  rw [renewalTool, h]

theorem exists_renewBytes_of_renewalTool {path : Text} {bytes : List UInt8}
    (h : (renewalTool path bytes).run.ending = .status 0) :
    ∃ after, Summary.renewBytes bytes = .ok after := by
  unfold renewalTool at h
  cases hrenew : Summary.renewBytes bytes with
  | error f => simp [hrenew] at h
  | ok after => exact ⟨after, rfl⟩

/-- What the renewal tool makes of any file on which it succeeds.  The new
contents end in a newline and have one line for each line before, kept as it was
or written anew from its first two words; a second run succeeds and leaves the
file as it is; and every line that is neither blank nor a comment is the summary
of the two spans that it begins with. -/
theorem renewalTool_fixed_point (path : Text) (bytes : List UInt8)
    (h : (renewalTool path bytes).run.ending = .status 0) :
    ∃ contents renewed : Text,
      Utf8.decode bytes = .ok contents ∧
      (renewalTool path bytes).bytes = Utf8.encode renewed ∧
      Utf8.decode (Utf8.encode renewed) = .ok renewed ∧
      (∃ body : Text, renewed = body.withNewline) ∧
      List.Forall₂ Summary.Renews
        (Summary.atLeastOne contents.unifyNewlines.lines) renewed.lines ∧
      renewalTool path (Utf8.encode renewed) =
        ⟨⟨.status 0, path.withNewline, []⟩, Utf8.encode renewed⟩ ∧
      ∀ line ∈ renewed.unifyNewlines.lines, Summary.isKept line = false →
        Summary.IsSummaryOf line line := by
  obtain ⟨after, hrenewBytes⟩ := exists_renewBytes_of_renewalTool h
  obtain ⟨contents, renewed, hdecode, hrenew, rfl⟩ :=
    Summary.renewBytes_eq_ok_iff.mp hrenewBytes
  obtain ⟨hrenews, hlines, hunify, hne⟩ := Summary.exists_lines_of_renew hrenew
  have hread : Utf8.decode (Utf8.encode renewed) = .ok renewed :=
    Utf8.decode_encode (Summary.within_isScalar_of_renew hrenew
      (Utf8.within_isScalar_of_decode hdecode))
  refine ⟨contents, renewed, hdecode, ?_, hread, ?_, hrenews, ?_, ?_⟩
  · rw [renewalTool_of_renewBytes hrenewBytes]
  · exact ⟨join "\n" renewed.lines, by rw [withNewline_join hne, ← hlines]⟩
  · exact renewalTool_of_renewBytes (Summary.renewBytes_eq_ok_iff.mpr
      ⟨renewed, renewed, hread, Summary.renew_renew hrenew, rfl⟩)
  · intro line hmem hkept
    rw [hunify] at hmem
    obtain ⟨before, -, hrenewed⟩ := Success.exists_of_mem_forall₂ hrenews hmem
    rcases hrenewed.self with ⟨hkept', -⟩ | ⟨-, hsummary⟩
    · rw [hkept] at hkept'
      simp at hkept'
    · exact hsummary

/-- A file with a comment and a pair of spans, which are kept apart by no space:
the comment ends as lines do on another system, the pair has an information
separator between its spans. -/
theorem renewalTool_fixed_point_comment_and_pair :
    (renewalTool "pairs" (Utf8.encode "#a\r\n[00:3]\x1f[5:7]")).run.ending =
        .status 0 ∧
      ∃ renewed : Text,
        (renewalTool "pairs" (Utf8.encode "#a\r\n[00:3]\x1f[5:7]")).bytes =
          Utf8.encode renewed ∧
        renewalTool "pairs" (Utf8.encode renewed) =
          ⟨⟨.status 0, withNewline "pairs", []⟩, Utf8.encode renewed⟩ := by
  have hlines : (unifyNewlines "#a\r\n[00:3]\x1f[5:7]").lines =
      ["#a", "[00:3]\x1f[5:7]"] := by cbv
  have hwords : words "[00:3]\x1f[5:7]" = ["[00:3]", "[5:7]"] := by cbv
  have ha : Bracketed.read "[00:3]" = .ok ⟨0, 3⟩ := by rfl
  have hb : Bracketed.read "[5:7]" = .ok ⟨5, 2⟩ := by rfl
  obtain ⟨summary, hsummary⟩ := Summary.exists_isSummaryOf hwords ha hb
  have hrenews : List.Forall₂ Summary.Renews ["#a", "[00:3]\x1f[5:7]"]
      ["#a", summary] :=
    .cons (Or.inl ⟨by decide, rfl⟩) (.cons (Or.inr ⟨by decide, hsummary⟩) .nil)
  have hstatus : (renewalTool "pairs"
      (Utf8.encode "#a\r\n[00:3]\x1f[5:7]")).run.ending = .status 0 := by
    rw [renewalTool_of_renewBytes (Summary.renewBytes_eq_ok_iff.mpr
      ⟨_, _, Utf8.decode_encode (by decide), Summary.renew_eq_ok_iff.mpr
        ⟨_, by rwa [hlines], rfl⟩, rfl⟩)]
  obtain ⟨contents, renewed, -, hbytes, -, -, -, hagain, -⟩ :=
    renewalTool_fixed_point "pairs" _ hstatus
  exact ⟨hstatus, renewed, hbytes, hagain⟩

end SourceSpans
