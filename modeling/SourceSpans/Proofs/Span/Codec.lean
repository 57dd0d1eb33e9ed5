import SourceSpans.Proofs.Span.Reading
import SourceSpans.Value.Spans

/-!
# Writing and reading spans

Writing a span and reading the text gives the span back, and reading a text and
writing the span gives the text back up to zeros in front of its numbers.  A
span can be written exactly when its end has a numeral, while everything that
is read can be written again.
-/

namespace SourceSpans

namespace Bracketed

/-- A text in bracketed form without the spare zeros of its two numbers. -/
def stripZeros (t : Text) : Text :=
  match fields? t with
  | some (first, second) =>
      enclose (Numeral.stripZeros first) (Numeral.stripZeros second)
  | none => t

theorem ofNat?_of_lt {n : Nat} (h : n < Numeral.limit) :
    Numeral.ofNat? n = some (Numeral.digits n) := if_pos h

theorem ofNat?_of_le {n : Nat} (h : Numeral.limit ≤ n) :
    Numeral.ofNat? n = none := if_neg (Nat.not_lt.mpr h)

/-- A span is written by the digits of its two ends as soon as the second one
has a numeral; the first one is not greater. -/
theorem ofSpan?_of_lt {s : Span} (h : s.stop < Numeral.limit) :
    ofSpan? s = some (enclose (Numeral.digits s.start) (Numeral.digits s.stop)) := by
  have hstart : s.start < Numeral.limit :=
    Nat.lt_of_le_of_lt (Nat.le_add_right _ _) h
  simp [ofSpan?, ofNat?_of_lt hstart, ofNat?_of_lt h]

theorem ofSpan?_of_le {s : Span} (h : Numeral.limit ≤ s.stop) :
    ofSpan? s = none := by
  cases hstart : Numeral.ofNat? s.start <;>
    simp [ofSpan?, hstart, ofNat?_of_le h]

theorem ofSpan?_eq_some_iff {s : Span} {t : Text} :
    ofSpan? s = some t ↔ s.stop < Numeral.limit ∧
      t = enclose (Numeral.digits s.start) (Numeral.digits s.stop) := by
  by_cases h : s.stop < Numeral.limit
  · rw [ofSpan?_of_lt h]
    simp [h, eq_comm]
  · rw [ofSpan?_of_le (Nat.le_of_not_lt h)]
    simp [h]

/-- What is written for the span of a text is the text without spare zeros. -/
theorem ofSpan?_of_read {t : Text} {s : Span} (h : read t = .ok s) :
    ofSpan? s = some (stripZeros t) := by
  have hlt := stop_lt_of_read h
  obtain ⟨first, second, hdenotes, rfl⟩ := read_eq_ok_iff.mp h
  rw [ofSpan?_of_lt hlt, stripZeros, hdenotes.fields?,
    Span.stop_mk_sub hdenotes.value_le,
    Numeral.digits_value hdenotes.isRun_first,
    Numeral.digits_value hdenotes.isRun_second]

theorem stripZeros_eq_self_iff {t first second : Text}
    (h : Denotes t first second) :
    stripZeros t = t ↔
      ¬Numeral.HasSpareZero first ∧ ¬Numeral.HasSpareZero second := by
  rw [← Numeral.stripZeros_eq_self_iff, ← Numeral.stripZeros_eq_self_iff,
    stripZeros, h.fields?]
  constructor
  · intro heq
    have hfields : fields? t =
        some (Numeral.stripZeros first, Numeral.stripZeros second) := by
      rw [← heq]
      exact fields?_enclose (Numeral.isRun_stripZeros h.isRun_first)
        (Numeral.isRun_stripZeros h.isRun_second)
    rw [h.fields?] at hfields
    simp only [Option.some.injEq, Prod.mk.injEq] at hfields
    exact ⟨hfields.1.symm, hfields.2.symm⟩
  · rintro ⟨hfirst, hsecond⟩
    simp only [hfirst, hsecond]
    rw [enclose_eq, h.form]

theorem read_stripZeros {t : Text} {s : Span} (h : read t = .ok s) :
    read (stripZeros t) = .ok s :=
  read_of_ofSpan? (ofSpan?_of_read h)

/-- Two texts are read as one span exactly when they are the same without spare
zeros. -/
theorem eq_iff_stripZeros_eq {t t' : Text} {s s' : Span}
    (h : read t = .ok s) (h' : read t' = .ok s') :
    s = s' ↔ stripZeros t = stripZeros t' := by
  constructor
  · rintro rfl
    exact Option.some.inj ((ofSpan?_of_read h).symm.trans (ofSpan?_of_read h'))
  · intro heq
    have hread := read_stripZeros h
    rw [heq, read_stripZeros h'] at hread
    exact (Except.ok.inj hread).symm

theorem ofSpan?_injective {s s' : Span} {t : Text}
    (h : ofSpan? s = some t) (h' : ofSpan? s' = some t) : s = s' := by
  have hread := read_of_ofSpan? h
  rw [read_of_ofSpan? h'] at hread
  exact (Except.ok.inj hread).symm

end Bracketed

namespace Value

theorem readSpan_fst_text {t : Text} {s : Span} :
    (Value.text t).readSpan.1 = .ok s ↔ Bracketed.read t = .ok s := by
  rw [readSpan, readSpan?]
  cases Bracketed.read t with
  | ok s' => simp
  | error why => simp

theorem roundTrip_of_le {s : Span} (h : Numeral.limit ≤ s.stop) :
    (Value.span s).roundTrip = .error .overlong := by
  have hdisplay : (Value.span s).display? = none := Bracketed.ofSpan?_of_le h
  rw [roundTrip, hdisplay]

/-- The bracketed form as a code of spans: a span whose end has a numeral is
written and read back in silence, and no other span is written; what is read is
written again, up to spare zeros; so different spans have different texts, and
two texts denote one span exactly when only spare zeros tell them apart. -/
theorem bracketed_codec :
    (∀ s : Span, s.stop < Numeral.limit →
      ∃ t, (Value.span s).display? = some t ∧
        (Value.text t).readSpan = (.ok s, []) ∧
        (Value.text t).readSpan? = (some s, [])) ∧
    (∀ s : Span, Numeral.limit ≤ s.stop →
      (Value.span s).display? = none ∧
        (Value.span s).roundTrip = .error .overlong) ∧
    (∀ t s, (Value.text t).readSpan.1 = .ok s →
      ∃ u, (Value.span s).display? = some u ∧
        (Value.text u).readSpan.1 = .ok s ∧
        u = Bracketed.stripZeros t ∧
        (u = t ↔ ∀ first second, Bracketed.Denotes t first second →
          ¬Numeral.HasSpareZero first ∧ ¬Numeral.HasSpareZero second)) ∧
    (∀ s s' t, (Value.span s).display? = some t →
      (Value.span s').display? = some t → s = s') ∧
    (∀ t t' s s', (Value.text t).readSpan.1 = .ok s →
      (Value.text t').readSpan.1 = .ok s' →
      (s = s' ↔ Bracketed.stripZeros t = Bracketed.stripZeros t')) := by
  refine ⟨fun s hs => ?_, fun s hs => ?_, fun t s ht => ?_, ?_, ?_⟩
  · have hwritten := Bracketed.ofSpan?_of_lt hs
    have hread := Bracketed.read_of_ofSpan? hwritten
    exact ⟨_, hwritten, readSpan_text.mpr ⟨hread, rfl⟩,
      readSpan?_text.mpr ⟨hread, rfl⟩⟩
  · exact ⟨Bracketed.ofSpan?_of_le hs, roundTrip_of_le hs⟩
  · have hread := readSpan_fst_text.mp ht
    obtain ⟨first, second, hdenotes, -⟩ := Bracketed.read_eq_ok_iff.mp hread
    refine ⟨Bracketed.stripZeros t, Bracketed.ofSpan?_of_read hread, ?_, rfl, ?_⟩
    · exact readSpan_fst_text.mpr (Bracketed.read_stripZeros hread)
    · rw [Bracketed.stripZeros_eq_self_iff hdenotes]
      constructor
      · intro hspare first' second' hdenotes'
        obtain ⟨rfl, rfl⟩ := hdenotes.unique hdenotes'
        exact hspare
      · intro h
        exact h first second hdenotes
  · intro s s' t h h'
    exact Bracketed.ofSpan?_injective h h'
  · intro t t' s s' h h'
    exact Bracketed.eq_iff_stripZeros_eq (readSpan_fst_text.mp h)
      (readSpan_fst_text.mp h')

end Value

end SourceSpans
