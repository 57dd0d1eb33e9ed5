import SourceSpans.Proofs.Span.Ends
import SourceSpans.Proofs.Success
import SourceSpans.Value.Spans

/-!
# Values that stand for spans

A question about a pair can be put to values of any kind.  A value stands for a
span when it is one or is a token in the place of one; the first value that does
not is blamed, and no other argument is looked at then.  Two values that do are
answered as their spans are: nothing is wrong with such a pair except that one of
its ends lies before another, and no answer has an end that the pair has not.
-/

namespace SourceSpans

open SourceSpans.Span (IsEnd)

namespace PairOp

/-- There always is a span around two spans. -/
theorem exists_answer_enclosing (a b : Span) :
    ∃ r, PairOp.enclosing.answer a b = .ok (.span r) :=
  ⟨_, congrArg (Except.map Finding.span) (Span.enclosing_eq a b)⟩

end PairOp

namespace Value

/-- The value is the span, or it is a token in the place of the span.  A token in
the place of a token stands for no span. -/
inductive StandsFor : Value → Span → Prop
  | itself (s : Span) : StandsFor (.span s) s
  | inPlace (lexeme : Value) (s : Span) : StandsFor (.token lexeme (.span s)) s

theorem span?_eq_some_iff {v : Value} {s : Span} : v.span? = some s ↔ v.StandsFor s := by
  constructor
  · intro h
    unfold span? at h
    split at h
    next t =>
      obtain rfl := Option.some.inj h
      exact .itself t
    next lexeme t =>
      obtain rfl := Option.some.inj h
      exact .inPlace lexeme t
    next => simp at h
  · intro h
    cases h with
    | itself => rfl
    | inPlace lexeme => rfl

theorem asSpan_of_standsFor {v : Value} {s : Span} (h : v.StandsFor s) :
    v.asSpan = .ok s := by
  rw [asSpan, span?_eq_some_iff.mpr h]

theorem asSpan_of_not_standsFor {v : Value} (h : ¬∃ s, v.StandsFor s) :
    v.asSpan = .error (.notSpanLike v.kind) := by
  have hnone : v.span? = none := by
    rw [Option.eq_none_iff_forall_ne_some]
    intro s hs
    exact h ⟨s, span?_eq_some_iff.mp hs⟩
  rw [asSpan, hnone]

variable {op : PairOp} {x y : Value} {a b : Span}

theorem answer_of_standsFor (hx : x.StandsFor a) (hy : y.StandsFor b) :
    answer op x y = (op.answer a b).mapError Fault.ofNegative := by
  rw [answer, asSpan_of_standsFor hx, asSpan_of_standsFor hy]

/-- What is wrong with two values that stand for spans is a negative length. -/
theorem exists_length_of_answer_error (hx : x.StandsFor a) (hy : y.StandsFor b) {f : Fault}
    (h : answer op x y = .error f) :
    (op = .gap ∨ op = .inner) ∧
      ∃ n : Int, n < 0 ∧ f = .complaint (.negative (.text "length") (.int n)) := by
  rw [answer_of_standsFor hx hy] at h
  obtain ⟨e, he, rfl⟩ := Success.mapError_eq_error_iff.mp h
  obtain ⟨first, last, -, -, hlt, rfl⟩ := PairOp.exists_isEnd_of_answer_error he
  refine ⟨PairOp.gap_or_inner_of_answer_error he, (last : Int) - first, ?_, rfl⟩
  omega

theorem isEnd_of_answer_span (hx : x.StandsFor a) (hy : y.StandsFor b) {r : Span}
    (h : answer op x y = .ok (.span r)) : IsEnd a b r.start ∧ IsEnd a b r.stop := by
  rw [answer_of_standsFor hx hy] at h
  exact PairOp.isEnd_of_answer (Success.mapError_eq_ok_iff.mp h)

/-- What a question about a pair comes to for values of any kind.  The first value
is blamed by its kind when it stands for no span, whatever the second one is, and
the second one is blamed next.  Two values that stand for spans are answered as the
spans are.  Around them there always is a span, and whether they overlap is always
said; what lies between or inside them can fail by a negative length and by nothing
else.  A span that is the answer has both its ends among the four ends of the pair. -/
theorem answer_classified (op : PairOp) (x y : Value) :
    ((¬∃ a, x.StandsFor a) → answer op x y = .error (.notSpanLike x.kind)) ∧
      ((∃ a, x.StandsFor a) → (¬∃ b, y.StandsFor b) →
        answer op x y = .error (.notSpanLike y.kind)) ∧
      (∀ kind, (Fault.notSpanLike kind).message? =
        some ("expected a Span or an object with a .span, got " ++ kind)) ∧
      ∀ a b, x.StandsFor a → y.StandsFor b →
        answer op x y = (op.answer a b).mapError Fault.ofNegative ∧
          (op = .enclosing → ∃ r, answer op x y = .ok (.span r)) ∧
          (op = .overlaps → ∃ shared, answer op x y = .ok (.truth shared)) ∧
          (∀ f, answer op x y = .error f →
            (op = .gap ∨ op = .inner) ∧
              ∃ n : Int, n < 0 ∧ f = .complaint (.negative (.text "length") (.int n))) ∧
          ∀ r, answer op x y = .ok (.span r) → IsEnd a b r.start ∧ IsEnd a b r.stop := by
  refine ⟨?_, ?_, fun _ => rfl, ?_⟩
  · intro hx
    rw [answer, asSpan_of_not_standsFor hx]
  · intro hx hy
    obtain ⟨a, ha⟩ := hx
    rw [answer, asSpan_of_standsFor ha, asSpan_of_not_standsFor hy]
  · intro a b hx hy
    have hanswer : answer op x y = (op.answer a b).mapError Fault.ofNegative :=
      answer_of_standsFor hx hy
    refine ⟨hanswer, ?_, ?_, ?_, ?_⟩
    · intro hop
      subst hop
      obtain ⟨r, hr⟩ := PairOp.exists_answer_enclosing a b
      exact ⟨r, hanswer.trans (by rw [hr]; rfl)⟩
    · intro hop
      subst hop
      exact ⟨Span.overlaps a b, hanswer⟩
    · intro f hf
      exact exists_length_of_answer_error hx hy hf
    · intro r hr
      exact isEnd_of_answer_span hx hy hr

end Value

end SourceSpans
