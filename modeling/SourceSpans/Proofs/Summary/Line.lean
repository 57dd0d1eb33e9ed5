import SourceSpans.Proofs.Span.Codec
import SourceSpans.Proofs.Text.Within
import SourceSpans.Summary

/-!
# What a summary tells

A summary is six words of printable ASCII, and it is neither blank nor a comment.  Its
words give back the two spans and the outcome of every question about them, so
different pairs have different summaries.
-/

namespace SourceSpans

open Text

namespace Bracketed

/-- A kind of code points that has the digits and the three marks has all of a
bracketed form. -/
theorem within_of_ofSpan? {kind : CodePoint → Bool} {s : Span} {t : Text}
    (hmarks : Within kind [0x5B, 0x3A, 0x5D])
    (hdigits : ∀ c, c.isDigit = true → kind c = true)
    (h : ofSpan? s = some t) : t.Within kind := by
  obtain ⟨-, rfl⟩ := ofSpan?_eq_some_iff.mp h
  simp only [within_cons, within_nil, and_true] at hmarks
  simp only [enclose, within_append, within_cons, within_nil, and_true]
  exact ⟨⟨⟨hmarks.1, within_digits hdigits⟩, hmarks.2.1, within_digits hdigits⟩,
    hmarks.2.2⟩

theorem plain_of_ofSpan? {s : Span} {t : Text} (h : ofSpan? s = some t) :
    t.Plain :=
  within_of_ofSpan? (by decide) (fun _ => CodePoint.isPlain_of_isDigit) h

theorem head?_of_ofSpan? {s : Span} {t : Text} (h : ofSpan? s = some t) :
    t.head? = some 0x5B := by
  obtain ⟨-, rfl⟩ := ofSpan?_eq_some_iff.mp h
  rfl

theorem isWord_of_ofSpan? {s : Span} {t : Text} (h : ofSpan? s = some t) :
    IsWord t := by
  refine isWord_iff.mpr ⟨?_, ?_⟩
  · rintro rfl
    exact absurd (head?_of_ofSpan? h) (by simp)
  · exact within_of_ofSpan? (by decide) (fun _ => CodePoint.isSolid_of_isDigit) h

end Bracketed

namespace Summary

/-! ## Entries -/

theorem isWord_findingText {finding : Finding} {t : Text}
    (h : findingText? finding = some t) : IsWord t ∧ t.Plain := by
  cases finding with
  | span s => exact ⟨Bracketed.isWord_of_ofSpan? h, Bracketed.plain_of_ofSpan? h⟩
  | truth b =>
      obtain rfl := Option.some.inj h
      cases b with
      | false => exact ⟨isWord_iff.mpr ⟨by decide, by decide⟩, by decide⟩
      | true => exact ⟨isWord_iff.mpr ⟨by decide, by decide⟩, by decide⟩

theorem isWord_entryText {answer : Except Span.Negative Finding} {t : Text}
    (h : entryText? answer = some t) : IsWord t ∧ t.Plain := by
  cases answer with
  | ok finding => exact isWord_findingText h
  | error e =>
      obtain rfl := Option.some.inj h
      exact ⟨isWord_iff.mpr ⟨by decide, by decide⟩, by decide⟩

theorem isWord_opName (op : PairOp) : IsWord (opName op) ∧ (opName op).Plain := by
  cases op <;> exact ⟨isWord_iff.mpr ⟨by decide, by decide⟩, by decide⟩

theorem isWord_entry {op : PairOp} {a b : Span} {t : Text}
    (h : entry? op a b = some t) : IsWord t ∧ t.Plain := by
  obtain ⟨answer, hanswer, rfl⟩ := Option.map_eq_some_iff.mp h
  obtain ⟨hname, hnamePlain⟩ := isWord_opName op
  obtain ⟨hword, hplain⟩ := isWord_entryText hanswer
  constructor
  · have hequals : Text.Within CodePoint.isSolid "=" := by decide
    exact (hname.append hequals).append (isWord_iff.mp hword).2
  · exact within_append.mpr ⟨within_append.mpr ⟨hnamePlain, by decide⟩, hplain⟩

/-! ## Lines -/

/-- A line has six words: the two spans and the four entries. -/
theorem exists_words_of_line? {a b : Span} {line : Text}
    (h : line? a b = some line) :
    ∃ nameA nameB enclosing gap inner overlaps,
      Bracketed.ofSpan? a = some nameA ∧ Bracketed.ofSpan? b = some nameB ∧
      entry? .enclosing a b = some enclosing ∧ entry? .gap a b = some gap ∧
      entry? .inner a b = some inner ∧ entry? .overlaps a b = some overlaps ∧
      line = join " " [nameA, nameB, enclosing, gap, inner, overlaps] := by
  simp only [line?, lineOf?, Option.bind_eq_bind, Option.bind_eq_some_iff,
    Option.pure_def, Option.some.injEq] at h
  obtain ⟨nameA, hnameA, nameB, hnameB, enclosing, henclosing, gap, hgap, inner,
    hinner, overlaps, hoverlaps, hline⟩ := h
  exact ⟨nameA, nameB, enclosing, gap, inner, overlaps, hnameA, hnameB, henclosing,
    hgap, hinner, hoverlaps, hline.symm⟩

variable {a b : Span} {line : Text}

/-- The six parts of a line are its words: none of them has a blank inside. -/
theorem words_join_parts {nameA nameB enclosing gap inner overlaps : Text}
    (hnameA : Bracketed.ofSpan? a = some nameA)
    (hnameB : Bracketed.ofSpan? b = some nameB)
    (henclosing : entry? .enclosing a b = some enclosing)
    (hgap : entry? .gap a b = some gap) (hinner : entry? .inner a b = some inner)
    (hoverlaps : entry? .overlaps a b = some overlaps) :
    words (join " " [nameA, nameB, enclosing, gap, inner, overlaps]) =
      [nameA, nameB, enclosing, gap, inner, overlaps] := by
  apply words_join
  simp only [List.forall_mem_cons, List.not_mem_nil, false_imp_iff, implies_true,
    and_true]
  exact ⟨Bracketed.isWord_of_ofSpan? hnameA, Bracketed.isWord_of_ofSpan? hnameB,
    (isWord_entry henclosing).1, (isWord_entry hgap).1,
    (isWord_entry hinner).1, (isWord_entry hoverlaps).1⟩

/-- The first two words of a line are read as the spans that it is about. -/
theorem words_of_line? (h : line? a b = some line) :
    ∃ nameA nameB rest, words line = nameA :: nameB :: rest ∧
      Bracketed.read nameA = .ok a ∧ Bracketed.read nameB = .ok b := by
  obtain ⟨nameA, nameB, enclosing, gap, inner, overlaps, hnameA, hnameB, henclosing,
    hgap, hinner, hoverlaps, rfl⟩ := exists_words_of_line? h
  exact ⟨nameA, nameB, [enclosing, gap, inner, overlaps],
    words_join_parts hnameA hnameB henclosing hgap hinner hoverlaps,
    Bracketed.read_of_ofSpan? hnameA, Bracketed.read_of_ofSpan? hnameB⟩

theorem plain_of_line? (h : line? a b = some line) : line.Plain := by
  obtain ⟨nameA, nameB, enclosing, gap, inner, overlaps, hnameA, hnameB, henclosing,
    hgap, hinner, hoverlaps, rfl⟩ := exists_words_of_line? h
  refine within_join (by decide) ?_
  simp only [List.forall_mem_cons, List.not_mem_nil, false_imp_iff, implies_true,
    and_true]
  exact ⟨Bracketed.plain_of_ofSpan? hnameA, Bracketed.plain_of_ofSpan? hnameB,
    (isWord_entry henclosing).2, (isWord_entry hgap).2,
    (isWord_entry hinner).2, (isWord_entry hoverlaps).2⟩

theorem exists_entry?_of_lt (op : PairOp) (ha : a.stop < Numeral.limit)
    (hb : b.stop < Numeral.limit) : ∃ t, entry? op a b = some t := by
  unfold entry?
  cases hanswer : op.answer a b with
  | error e => simp [entryText?]
  | ok finding =>
      cases finding with
      | truth value => simp [entryText?, findingText?]
      | span s =>
          have hlt := PairOp.stop_lt_of_answer hanswer ha hb
          simp [entryText?, findingText?, Bracketed.ofSpan?_of_lt hlt]

theorem exists_line?_of_lt (ha : a.stop < Numeral.limit)
    (hb : b.stop < Numeral.limit) : ∃ line, line? a b = some line := by
  obtain ⟨enclosing, henclosing⟩ := exists_entry?_of_lt .enclosing ha hb
  obtain ⟨gap, hgap⟩ := exists_entry?_of_lt .gap ha hb
  obtain ⟨inner, hinner⟩ := exists_entry?_of_lt .inner ha hb
  obtain ⟨overlaps, hoverlaps⟩ := exists_entry?_of_lt .overlaps ha hb
  simp [line?, lineOf?, Bracketed.ofSpan?_of_lt ha, Bracketed.ofSpan?_of_lt hb,
    henclosing, hgap, hinner, hoverlaps]

theorem head?_of_line? (h : line? a b = some line) : line.head? = some 0x5B := by
  obtain ⟨nameA, nameB, enclosing, gap, inner, overlaps, hnameA, -, -, -, -, -, rfl⟩ :=
    exists_words_of_line? h
  have hhead := Bracketed.head?_of_ofSpan? hnameA
  rw [join, List.append_assoc, List.head?_append, hhead]
  rfl

end Summary

namespace Value

theorem summary_span_eq_ok_iff {a b : Span} {line : Text} :
    (Value.span a).summary (.span b) = .ok line ↔
      Summary.line? a b = some line := by
  unfold summary Summary.line?
  cases hnameA : Bracketed.ofSpan? a with
  | none => simp [display?, hnameA]
  | some nameA =>
      cases hnameB : Bracketed.ofSpan? b with
      | none => simp [display?, hnameA, hnameB]
      | some nameB =>
          cases hline : Summary.lineOf? nameA nameB a b <;>
            simp [display?, hnameA, hnameB, asSpan, span?, hline, bind, Except.bind]

end Value

/-! ## Summaries as records -/

namespace Summary

/-- The text tells the outcome of a combination: it is read as the span that
the combination comes to, or it is the mark of an impossible one. -/
structure Tells (t : Text) (outcome : Except Span.Negative Span) : Prop where
  span_iff : ∀ s, (Value.text t).readSpan.1 = .ok s ↔ outcome = .ok s
  impossible_iff : t = "!" ↔ ∃ e, outcome = .error e

/-! ### Entries -/

theorem read_impossible : Bracketed.read impossible = .error .noMatch := by
  rfl

/-- What is written for a span tells that the span is the outcome. -/
theorem tells_ok {s : Span} {t : Text} (h : Bracketed.ofSpan? s = some t) :
    Tells t (.ok s) := by
  have hread := Bracketed.read_of_ofSpan? h
  constructor
  · intro s'
    rw [Value.readSpan_fst_text, hread]
    simp
  · constructor
    · intro hmark
      rw [hmark] at hread
      have hnone := read_impossible
      unfold impossible at hnone
      rw [hnone] at hread
      simp at hread
    · rintro ⟨e, he⟩
      simp at he

theorem tells_error (e : Span.Negative) : Tells impossible (.error e) := by
  constructor
  · intro s
    rw [Value.readSpan_fst_text, read_impossible]
    simp
  · exact ⟨fun _ => ⟨e, rfl⟩, fun _ => rfl⟩

/-- The entry of a combination is its name and a text that tells its outcome. -/
theorem exists_tells_of_entry? {op : PairOp} {a b : Span} {word : Text}
    {outcome : Except Span.Negative Span}
    (houtcome : op.answer a b = outcome.map Finding.span)
    (h : entry? op a b = some word) :
    ∃ t, word = opName op ++ "=" ++ t ∧ Tells t outcome := by
  obtain ⟨t, ht, rfl⟩ := Option.map_eq_some_iff.mp h
  refine ⟨t, rfl, ?_⟩
  rw [houtcome] at ht
  cases outcome with
  | ok s => exact tells_ok ht
  | error e =>
      obtain rfl : impossible = t := Option.some.inj ht
      exact tells_error e

/-- The entry about a shared offset says whether there is one. -/
theorem eq_of_entry?_overlaps {a b : Span} {word : Text}
    (h : entry? .overlaps a b = some word) :
    word = "overlaps=" ++ (if Span.overlaps a b then "true" else "false" : Text) := by
  obtain ⟨t, ht, rfl⟩ := Option.map_eq_some_iff.mp h
  obtain rfl := Option.some.inj ht
  rfl

end Summary

namespace Value

variable {a b : Span}

/-- A pair whose ends have numerals has a summary. -/
theorem exists_summary_of_lt (ha : a.stop < Numeral.limit)
    (hb : b.stop < Numeral.limit) :
    ∃ line, (Value.span a).summary (.span b) = .ok line := by
  obtain ⟨line, hline⟩ := Summary.exists_line?_of_lt ha hb
  exact ⟨line, summary_span_eq_ok_iff.mpr hline⟩

theorem summary_of_le (h : Numeral.limit ≤ a.stop ∨ Numeral.limit ≤ b.stop) :
    (Value.span a).summary (.span b) = .error .overlong := by
  unfold summary
  rcases h with ha | hb
  · have hnone : (Value.span a).display? = none := Bracketed.ofSpan?_of_le ha
    rw [hnone]
  · have hnone : (Value.span b).display? = none := Bracketed.ofSpan?_of_le hb
    rw [hnone]
    cases (Value.span a).display? with
    | none => rfl
    | some nameA => rfl

/-- A pair has no summary exactly when one of its ends has no numeral. -/
theorem summary_eq_error_iff {f : Fault} :
    (Value.span a).summary (.span b) = .error f ↔
      f = .overlong ∧ (Numeral.limit ≤ a.stop ∨ Numeral.limit ≤ b.stop) := by
  by_cases h : Numeral.limit ≤ a.stop ∨ Numeral.limit ≤ b.stop
  · rw [summary_of_le h]
    simp [h, eq_comm]
  · obtain ⟨ha, hb⟩ := not_or.mp h
    obtain ⟨line, hline⟩ :=
      exists_summary_of_lt (Nat.lt_of_not_le ha) (Nat.lt_of_not_le hb)
    rw [hline]
    simp [h]

/-- A summary belongs to one pair only: its first two words are the pair. -/
theorem eq_of_summary_eq {c d : Span} {line : Text}
    (h : (Value.span a).summary (.span b) = .ok line)
    (h' : (Value.span c).summary (.span d) = .ok line) : a = c ∧ b = d := by
  obtain ⟨nameA, nameB, rest, hwords, ha, hb⟩ :=
    Summary.words_of_line? (summary_span_eq_ok_iff.mp h)
  obtain ⟨nameC, nameD, rest', hwords', hc, hd⟩ :=
    Summary.words_of_line? (summary_span_eq_ok_iff.mp h')
  rw [hwords] at hwords'
  obtain ⟨rfl, htail⟩ := List.cons.inj hwords'
  obtain ⟨rfl, -⟩ := List.cons.inj htail
  rw [ha] at hc
  rw [hb] at hd
  exact ⟨Except.ok.inj hc, Except.ok.inj hd⟩

/-- A summary as a record of a pair of spans.  There is none exactly when an end
of the pair has no numeral, and nothing else can go wrong.  Otherwise it is one
line of six words: two that are read as the spans of the pair, three that tell
under their names what each combination comes to, of which the first is always
possible, and one that says whether the spans overlap.  So two pairs have the
same summary only when they are the same pair. -/
theorem summary_record :
    (∀ (a b : Span) (f : Fault),
      (Value.span a).summary (.span b) = .error f ↔
        f = .overlong ∧ (Numeral.limit ≤ a.stop ∨ Numeral.limit ≤ b.stop)) ∧
    (∀ (a b : Span) (line : Text), (Value.span a).summary (.span b) = .ok line →
      line.Unbroken ∧ ∃ nameA nameB enclosing gap inner : Text,
        line.words =
          [nameA, nameB, "enclosing=" ++ enclosing, "gap=" ++ gap, "inner=" ++ inner,
            "overlaps=" ++ (if Span.overlaps a b then "true" else "false" : Text)] ∧
        (Value.text nameA).readSpan.1 = .ok a ∧
        (Value.text nameB).readSpan.1 = .ok b ∧
        Summary.Tells enclosing (Span.enclosing a b) ∧
        (∃ s, Span.enclosing a b = .ok s) ∧
        Summary.Tells gap (Span.gap a b) ∧
        Summary.Tells inner (Span.inner a b)) ∧
    (∀ a b c d : Span, a.stop < Numeral.limit → b.stop < Numeral.limit →
      c.stop < Numeral.limit → d.stop < Numeral.limit →
      ((Value.span a).summary (.span b) = (Value.span c).summary (.span d) ↔
        a = c ∧ b = d)) := by
  refine ⟨fun a b f => summary_eq_error_iff, fun a b line h => ?_, ?_⟩
  · have hline := summary_span_eq_ok_iff.mp h
    have hunbroken : line.Unbroken := (Summary.plain_of_line? hline).unbroken
    obtain ⟨nameA, nameB, word₁, word₂, word₃, word₄, hnameA, hnameB, hword₁, hword₂,
      hword₃, hword₄, rfl⟩ := Summary.exists_words_of_line? hline
    have hwords :=
      Summary.words_join_parts hnameA hnameB hword₁ hword₂ hword₃ hword₄
    obtain ⟨enclosing, rfl, henclosing⟩ := Summary.exists_tells_of_entry? rfl hword₁
    obtain ⟨gap, rfl, hgap⟩ := Summary.exists_tells_of_entry? rfl hword₂
    obtain ⟨inner, rfl, hinner⟩ := Summary.exists_tells_of_entry? rfl hword₃
    obtain rfl := Summary.eq_of_entry?_overlaps hword₄
    refine ⟨hunbroken, nameA, nameB, enclosing, gap, inner, hwords, ?_, ?_,
      henclosing, ⟨_, Span.enclosing_eq a b⟩, hgap, hinner⟩
    · exact readSpan_fst_text.mpr (Bracketed.read_of_ofSpan? hnameA)
    · exact readSpan_fst_text.mpr (Bracketed.read_of_ofSpan? hnameB)
  · intro a b c d ha hb _ _
    obtain ⟨line, hline⟩ := exists_summary_of_lt ha hb
    constructor
    · intro heq
      exact eq_of_summary_eq hline (heq ▸ hline)
    · rintro ⟨rfl, rfl⟩
      rfl

end Value

end SourceSpans
