import SourceSpans.Proofs.Summary.Renewal

/-!
# When a file is not renewed

Renewing a file can fail at a line only, and only by what the line begins with.
Two words that are read as spans always have a summary, because no combination
reaches further than its parts.  So the lines of a file tell whether it can be
renewed and what is wrong otherwise, and a file that cannot be renewed stays as
it was.
-/

namespace SourceSpans

open Text Success

namespace Value

theorem readSpan_text_cases (t : Text) :
    (∃ s, (Value.text t).readSpan.1 = .ok s) ∨
      (Value.text t).readSpan.1 = .error (.malformed (.text t)) := by
  rw [readSpan, readSpan?]
  cases Bracketed.read t with
  | ok s => exact Or.inl ⟨s, rfl⟩
  | error why => exact Or.inr rfl

end Value

namespace Summary

/-- What keeps a line from being written anew: it has too few words, or one of
its first two words is not the text of a span.  The first word is judged before
the second. -/
inductive Refused (line : Text) : Fault → Prop
  | tooFew (hwords : line.words.length < 2) :
      Refused line (.tooFew 2 line.words.length)
  | malformedFirst {first second : Text} {rest : List Text}
      (hwords : line.words = first :: second :: rest)
      (hfirst : (Value.text first).readSpan.1 = .error (.malformed (.text first))) :
      Refused line (.complaint (.malformed (.text first)))
  | malformedSecond {first second : Text} {rest : List Text} {a : Span}
      (hwords : line.words = first :: second :: rest)
      (hfirst : (Value.text first).readSpan.1 = .ok a)
      (hsecond : (Value.text second).readSpan.1 = .error (.malformed (.text second))) :
      Refused line (.complaint (.malformed (.text second)))

/-- The line is neither blank nor a comment, and has fewer than two words or,
among its first two, a word that is not the text of a span. -/
def Offends (line : Text) : Prop :=
  isKept line = false ∧
    (line.words.length < 2 ∨
      ∃ word ∈ line.words.take 2, ∀ s, (Value.text word).readSpan.1 ≠ .ok s)

/-! ## One line -/

section Words

variable {first second : Text} {rest : List Text} {a b : Span}

theorem wordSpan_of_malformed
    (h : (Value.text first).readSpan.1 = .error (.malformed (.text first))) :
    wordSpan first = .error (.complaint (.malformed (.text first))) := by
  rw [wordSpan, h]
  rfl

theorem renewWords_of_first
    (h : (Value.text first).readSpan.1 = .error (.malformed (.text first))) :
    renewWords (first :: second :: rest) =
      .error (.complaint (.malformed (.text first))) := by
  rw [renewWords, wordSpan_of_malformed h]
  rfl

theorem renewWords_of_second (ha : (Value.text first).readSpan.1 = .ok a)
    (h : (Value.text second).readSpan.1 = .error (.malformed (.text second))) :
    renewWords (first :: second :: rest) =
      .error (.complaint (.malformed (.text second))) := by
  rw [renewWords, wordSpan_eq_ok_iff.mpr ha, wordSpan_of_malformed h]
  rfl

theorem exists_summary_of_readSpan (ha : (Value.text first).readSpan.1 = .ok a)
    (hb : (Value.text second).readSpan.1 = .ok b) :
    ∃ summary, (Value.span a).summary (.span b) = .ok summary := by
  obtain ⟨summary, hsummary⟩ := exists_line?_of_lt
    (Bracketed.stop_lt_of_read (Value.readSpan_fst_text.mp ha))
    (Bracketed.stop_lt_of_read (Value.readSpan_fst_text.mp hb))
  exact ⟨summary, Value.summary_span_eq_ok_iff.mpr hsummary⟩

theorem exists_renewWords_of_readSpan (rest : List Text)
    (ha : (Value.text first).readSpan.1 = .ok a)
    (hb : (Value.text second).readSpan.1 = .ok b) :
    ∃ renewed, renewWords (first :: second :: rest) = .ok renewed := by
  obtain ⟨summary, hsummary⟩ := exists_summary_of_readSpan ha hb
  exact ⟨summary, renewWords_eq_ok_iff.mpr
    ⟨first, second, rest, a, b, rfl, ha, hb, hsummary⟩⟩

end Words

variable {line : Text} {f : Fault}

theorem refused_of_renewWords (h : renewWords line.words = .error f) :
    Refused line f := by
  match hwords : line.words with
  | [] =>
      rw [hwords] at h
      obtain rfl := Except.error.inj h
      have hfew : line.words.length < 2 := by simp [hwords]
      simpa [hwords] using Refused.tooFew hfew
  | [word] =>
      rw [hwords] at h
      obtain rfl := Except.error.inj h
      have hfew : line.words.length < 2 := by simp [hwords]
      simpa [hwords] using Refused.tooFew hfew
  | first :: second :: rest =>
      rw [hwords] at h
      rcases Value.readSpan_text_cases first with ⟨a, ha⟩ | hfirst
      · rcases Value.readSpan_text_cases second with ⟨b, hb⟩ | hsecond
        · obtain ⟨renewed, hrenewed⟩ := exists_renewWords_of_readSpan rest ha hb
          rw [hrenewed] at h
          simp at h
        · rw [renewWords_of_second ha hsecond] at h
          obtain rfl := Except.error.inj h
          exact .malformedSecond hwords ha hsecond
      · rw [renewWords_of_first hfirst] at h
        obtain rfl := Except.error.inj h
        exact .malformedFirst hwords hfirst

theorem Refused.renewWords (h : Refused line f) :
    renewWords line.words = .error f := by
  cases h with
  | tooFew hfew =>
      match hwords : line.words with
      | [] => rfl
      | [word] => rfl
      | first :: second :: rest =>
          simp only [hwords, List.length_cons] at hfew
          omega
  | malformedFirst hwords hfirst =>
      rw [hwords]
      exact renewWords_of_first hfirst
  | malformedSecond hwords hfirst hsecond =>
      rw [hwords]
      exact renewWords_of_second hfirst hsecond

/-- A line fails exactly when it is refused, by what it is refused for. -/
theorem renewLine_eq_error_iff :
    renewLine line = .error f ↔ isKept line = false ∧ Refused line f := by
  unfold renewLine
  cases hkept : isKept line with
  | true => simp
  | false =>
      simp only [Bool.false_eq_true, if_false, true_and]
      exact ⟨refused_of_renewWords, Refused.renewWords⟩

theorem exists_refused_iff :
    (∃ f, Refused line f) ↔ line.words.length < 2 ∨
      ∃ word ∈ line.words.take 2, ∀ s, (Value.text word).readSpan.1 ≠ .ok s := by
  constructor
  · rintro ⟨f, h⟩
    cases h with
    | tooFew hfew => exact Or.inl hfew
    | @malformedFirst first _ _ hwords hfirst =>
        exact Or.inr ⟨first, by simp [hwords], by simp [hfirst]⟩
    | @malformedSecond _ second _ _ hwords _ hsecond =>
        exact Or.inr ⟨second, by simp [hwords], by simp [hsecond]⟩
  · rintro (hfew | ⟨word, hmem, hword⟩)
    · exact ⟨_, .tooFew hfew⟩
    · match hwords : line.words with
      | [] => simp [hwords] at hmem
      | [_] => exact ⟨_, .tooFew (by simp [hwords])⟩
      | first :: second :: rest =>
          rcases Value.readSpan_text_cases first with ⟨a, ha⟩ | hfirst
          · rcases Value.readSpan_text_cases second with ⟨b, hb⟩ | hsecond
            · simp only [hwords, List.take_succ_cons, List.take_zero, List.mem_cons,
                List.not_mem_nil, or_false] at hmem
              rcases hmem with rfl | rfl
              · exact absurd ha (hword a)
              · exact absurd hb (hword b)
            · exact ⟨_, .malformedSecond hwords ha hsecond⟩
          · exact ⟨_, .malformedFirst hwords hfirst⟩

theorem offends_iff : Offends line ↔ ∃ f, renewLine line = .error f := by
  simp only [Offends, renewLine_eq_error_iff, exists_and_left, exists_refused_iff]

theorem not_offends_iff : ¬Offends line ↔ ∃ renewed, renewLine line = .ok renewed := by
  rw [offends_iff]
  cases renewLine line <;> simp

/-! ## Files -/

variable {contents : Text}

/-- Contents fail at their first line that offends. -/
theorem renew_eq_error_iff :
    renew contents = .error f ↔
      ∃ before line after, contents.unifyNewlines.lines = before ++ line :: after ∧
        (∀ l ∈ before, ¬Offends l) ∧ Offends line ∧ Refused line f := by
  rw [renew, map_eq_error_iff, renewLines_eq_mapM, mapM_eq_error_iff]
  constructor
  · rintro ⟨before, line, after, hsplit, hbefore, hline⟩
    exact ⟨before, line, after, hsplit, fun l hl => not_offends_iff.mpr (hbefore l hl),
      offends_iff.mpr ⟨f, hline⟩, (renewLine_eq_error_iff.mp hline).2⟩
  · rintro ⟨before, line, after, hsplit, hbefore, hoffends, hrefused⟩
    exact ⟨before, line, after, hsplit, fun l hl => not_offends_iff.mp (hbefore l hl),
      renewLine_eq_error_iff.mpr ⟨hoffends.1, hrefused⟩⟩

/-- All lines have become something exactly when none of them offends. -/
theorem exists_renews_iff {ls : List Text} :
    (∃ ms, List.Forall₂ Renews ls ms) ↔ ∀ line ∈ ls, ¬Offends line := by
  induction ls with
  | nil => simp
  | cons line rest ih =>
      rw [List.forall_mem_cons, ← ih, not_offends_iff]
      constructor
      · rintro ⟨ms, hms⟩
        obtain ⟨renewed, others, hrenewed, hothers, rfl⟩ :=
          List.forall₂_cons_left_iff.mp hms
        exact ⟨⟨renewed, renewLine_eq_ok_iff.mpr hrenewed⟩, others, hothers⟩
      · rintro ⟨⟨renewed, hrenewed⟩, others, hothers⟩
        exact ⟨renewed :: others, .cons (renewLine_eq_ok_iff.mp hrenewed) hothers⟩

theorem exists_renew_eq_error_iff :
    (∃ f, renew contents = .error f) ↔
      ∃ line ∈ contents.unifyNewlines.lines, Offends line := by
  constructor
  · rintro ⟨f, h⟩
    obtain ⟨before, line, after, hsplit, -, hoffends, -⟩ := renew_eq_error_iff.mp h
    exact ⟨line, by simp [hsplit], hoffends⟩
  · rintro ⟨line, hmem, hoffends⟩
    cases h : renew contents with
    | error f => exact ⟨f, rfl⟩
    | ok renewed =>
        obtain ⟨ms, hms, -⟩ := renew_eq_ok_iff.mp h
        exact absurd hoffends (exists_renews_iff.mp ⟨ms, hms⟩ line hmem)

theorem renewBytes_of_decode {bytes : List UInt8}
    (h : Utf8.decode bytes = .ok contents) :
    renewBytes bytes = (renew contents).map Utf8.encode := by
  rw [renewBytes, h]
  change (renew contents >>= fun renewed => pure (Utf8.encode renewed)) = _
  cases renew contents <;> rfl

end Summary

open Summary

section Tool

variable {path contents : Text} {bytes : List UInt8} {f : Fault}

theorem renewalTool_of_fault (h : (renewalTool path bytes).run.ending = .fault f) :
    renewalTool path bytes = ⟨⟨.fault f, [], []⟩, bytes⟩ := by
  unfold renewalTool at h ⊢
  cases hrenew : renewBytes bytes with
  | error e =>
      rw [hrenew] at h
      rw [Ending.fault.inj h]
  | ok renewed =>
      rw [hrenew] at h
      simp at h

theorem ending_renewalTool_eq_fault_iff (h : Utf8.decode bytes = .ok contents) :
    (renewalTool path bytes).run.ending = .fault f ↔ renew contents = .error f := by
  rw [renewalTool, renewBytes_of_decode h]
  cases renew contents <;> simp [Except.map]

end Tool

/-- When the renewal tool fails on a file that holds a text.  It does so exactly
when a line offends; then the first line that does says what is wrong, nothing is
printed, and the file is as it was.  When no line offends, nothing else can go
wrong, since any two spans that were read have a summary: the tool ends well and
the file has its new lines. -/
theorem renewalTool_fails_iff (path : Text) (bytes : List UInt8) (contents : Text)
    (hcontents : Utf8.decode bytes = .ok contents) :
    ((∃ f, (renewalTool path bytes).run.ending = .fault f) ↔
      ∃ line ∈ contents.unifyNewlines.lines, Offends line) ∧
    (∀ f, (renewalTool path bytes).run.ending = .fault f ↔
      ∃ before line after, contents.unifyNewlines.lines = before ++ line :: after ∧
        (∀ l ∈ before, ¬Offends l) ∧ Offends line ∧ Refused line f) ∧
    (∀ f, (renewalTool path bytes).run.ending = .fault f →
      renewalTool path bytes = ⟨⟨.fault f, [], []⟩, bytes⟩) ∧
    ((∀ line ∈ contents.unifyNewlines.lines, ¬Offends line) →
      ∃ ms, List.Forall₂ Renews contents.unifyNewlines.lines ms ∧
        renewalTool path bytes =
          ⟨⟨.status 0, path.withNewline, []⟩, Utf8.encode (ofLines (atLeastOne ms))⟩) ∧
    (∀ first second a b, (Value.text first).readSpan.1 = .ok a →
      (Value.text second).readSpan.1 = .ok b →
      ∃ summary, (Value.span a).summary (.span b) = .ok summary) := by
  refine ⟨?_, fun f => ?_, fun f => renewalTool_of_fault, fun hnone => ?_, ?_⟩
  · simp only [ending_renewalTool_eq_fault_iff hcontents, exists_renew_eq_error_iff]
  · rw [ending_renewalTool_eq_fault_iff hcontents, renew_eq_error_iff]
  · obtain ⟨ms, hms⟩ := exists_renews_iff.mpr hnone
    refine ⟨ms, hms, renewalTool_of_renewBytes ?_⟩
    exact renewBytes_eq_ok_iff.mpr
      ⟨contents, _, hcontents, renew_eq_ok_iff.mpr ⟨ms, hms, rfl⟩, rfl⟩
  · intro first second a b ha hb
    exact exists_summary_of_readSpan ha hb

/-- A form feed cuts a comment in two, and the second half is no comment.  It is
the line that offends, by its first word, whose ends are reversed. -/
theorem renewalTool_fails_iff_cut_comment :
    Utf8.decode (Utf8.encode "#a\x0c[3:1] [0:1]\n[7]") = .ok "#a\x0c[3:1] [0:1]\n[7]" ∧
      renewalTool "pairs" (Utf8.encode "#a\x0c[3:1] [0:1]\n[7]") =
        ⟨⟨.fault (.complaint (.malformed (.text "[3:1]"))), [], []⟩,
          Utf8.encode "#a\x0c[3:1] [0:1]\n[7]"⟩ := by
  have hdecode : Utf8.decode (Utf8.encode "#a\x0c[3:1] [0:1]\n[7]") =
      .ok "#a\x0c[3:1] [0:1]\n[7]" := Utf8.decode_encode (by decide)
  have hlines : (unifyNewlines "#a\x0c[3:1] [0:1]\n[7]").lines =
      ["#a"] ++ "[3:1] [0:1]" :: ["[7]"] := by cbv
  have hwords : words "[3:1] [0:1]" = ["[3:1]", "[0:1]"] := by cbv
  have hreversed : (Value.text "[3:1]").readSpan.1 =
      .error (.malformed (.text "[3:1]")) := by rfl
  have hrefused : Refused "[3:1] [0:1]" (.complaint (.malformed (.text "[3:1]"))) :=
    .malformedFirst hwords hreversed
  have hoffends : Offends "[3:1] [0:1]" :=
    ⟨by decide, exists_refused_iff.mp ⟨_, hrefused⟩⟩
  have hcomment : ¬Offends "#a" := by
    rintro ⟨hkept, -⟩
    exact absurd hkept (by decide)
  obtain ⟨-, hfault, hunchanged, -⟩ :=
    renewalTool_fails_iff "pairs" _ _ hdecode
  refine ⟨hdecode, hunchanged _ ((hfault _).mpr ?_)⟩
  exact ⟨_, _, _, hlines, by simpa using hcomment, hoffends, hrefused⟩

end SourceSpans
