import SourceSpans.Proofs.Summary.Line
import SourceSpans.Proofs.Tool.Outcome

/-!
# Expressions over spans

An expression is evaluated by the operations on values, or by running the span
tool once for every question with the lines that the runs before have printed as
its arguments.  Both come to the same: whatever span a run prints is printed in a
form that the next run takes as an operand and reads back, since a combination
never leads beyond the ends of its parts.
-/

namespace SourceSpans

open CommandLine Success Text

/-- What a question about two spans is answered by. -/
inductive AnswerKind where
  | span
  | truth
  deriving DecidableEq

namespace PairOp

def kind : PairOp → AnswerKind
  | .overlaps => .truth
  | _ => .span

end PairOp

/-- An expression by the kind of its value: a span that has a bracketed form, or
a question about two expressions.  Only spans can be asked about, so a question
with a truth value for its answer stands at the root. -/
inductive Expression : AnswerKind → Type where
  | leaf (s : Span) (hs : s.stop < Numeral.limit) : Expression .span
  | ask (op : PairOp) (left right : Expression .span) : Expression op.kind

namespace Expression

/-- The value of an expression by the operations on values. -/
def value {k : AnswerKind} : Expression k → Except Fault Value
  | .leaf s _ => .ok (.span s)
  | .ask op left right => do
      let a ← left.value
      let b ← right.value
      let finding ← Value.answer op a b
      return finding.value

theorem value_leaf (s : Span) (hs : s.stop < Numeral.limit) :
    (Expression.leaf s hs).value = .ok (.span s) := rfl

theorem value_ask (op : PairOp) (left right : Expression .span) :
    (Expression.ask op left right).value = (do
      let a ← left.value
      let b ← right.value
      let finding ← Value.answer op a b
      return finding.value) := rfl

end Expression

/-- What a run that ended well has printed, without the newline. -/
def Run.line? (run : Run) : Option Text :=
  match run.ending with
  | .status 0 => some run.out.dropLast
  | _ => none

namespace Expression

/-- The line that an expression comes to when every question is a run of the
span tool on the lines of its parts. -/
def line? {k : AnswerKind} : Expression k → Option Text
  | .leaf s _ => (Value.span s).display?
  | .ask op left right => do
      let a ← left.line?
      let b ← right.line?
      (spanTool [Summary.opName op, a, b]).line?

theorem line?_leaf (s : Span) (hs : s.stop < Numeral.limit) :
    (Expression.leaf s hs).line? = (Value.span s).display? := rfl

theorem line?_ask (op : PairOp) (left right : Expression .span) :
    (Expression.ask op left right).line? = (do
      let a ← left.line?
      let b ← right.line?
      (spanTool [Summary.opName op, a, b]).line?) := rfl

end Expression

/-! ## A single run -/

namespace Bracketed

theorem isOperand_of_ofSpan? {s : Span} {t : Text} (h : ofSpan? s = some t) :
    IsOperand t := by
  unfold IsOperand
  rw [head?_of_ofSpan? h]
  decide

end Bracketed

namespace Request

variable {op : PairOp} {a b : Text} {s t : Span}

theorem plainLine?_pair (op : PairOp) (finding : Finding) :
    plainLine? (.pair op) finding = Summary.findingText? finding := by
  cases finding with
  | span s => simp [plainLine?, Summary.findingText?]
  | truth b => rfl

theorem run_plain (request : Request) :
    request.run ⟨false, false⟩ =
      match request.results.1 with
      | .error f => failing f
      | .ok findings => Run.printing (findings.map (line false request.command)) := by
  rw [run_eq]
  rfl

theorem results_pair_text (ha : Bracketed.read a = .ok s)
    (hb : Bracketed.read b = .ok t) :
    (Request.pair op (.text a) (.text b)).results.1 =
      ((op.answer s t).mapError Fault.ofNegative).map fun finding => [finding] := by
  have hreadA := Value.readSpan?_fst_text.mpr ha
  have hreadB := Value.readSpan?_fst_text.mpr hb
  rw [results_pair, answer_of_some_some hreadA hreadB]

/-- An answer about two spans that were read is printed on one line. -/
theorem run_pair_of_ok (ha : Bracketed.read a = .ok s) (hb : Bracketed.read b = .ok t)
    {finding : Finding} (h : op.answer s t = .ok finding) :
    ∃ text, Summary.findingText? finding = some text ∧
      (Request.pair op (.text a) (.text b)).run ⟨false, false⟩ =
        ⟨.status 0, text.withNewline, []⟩ := by
  have hresults : (Request.pair op (.text a) (.text b)).results.1 = .ok [finding] := by
    rw [results_pair_text ha hb, h]
    rfl
  have hwritable : finding.Writable := by
    cases finding with
    | span r =>
        exact PairOp.stop_lt_of_answer h (Bracketed.stop_lt_of_read ha)
          (Bracketed.stop_lt_of_read hb)
    | truth v => trivial
  obtain ⟨text, htext, -⟩ := plainLine?_of_writable (.pair op) hwritable
  refine ⟨text, by rw [← plainLine?_pair op, htext], ?_⟩
  rw [run_plain, hresults]
  simp [command, line, htext, Run.printing]

/-- A combination that is impossible is complained about, and nothing is printed. -/
theorem run_pair_of_error (ha : Bracketed.read a = .ok s)
    (hb : Bracketed.read b = .ok t) {e : Span.Negative} (h : op.answer s t = .error e) :
    ∃ message, e.complaint.message? = some message ∧
      (Request.pair op (.text a) (.text b)).run ⟨false, false⟩ =
        ⟨.status 1, [], ("textspan: error: " ++ message : Text).withNewline⟩ := by
  have hresults : (Request.pair op (.text a) (.text b)).results.1 =
      .error (.complaint e.complaint) := by
    rw [results_pair_text ha hb, h]
    rfl
  have hbound := PairOp.natAbs_lt_of_answer_error h (Bracketed.stop_lt_of_read ha)
    (Bracketed.stop_lt_of_read hb)
  obtain ⟨message, hmessage, -⟩ := Complaint.tellable_negative hbound
  refine ⟨message, hmessage, ?_⟩
  rw [run_plain, hresults]
  simp only [failing, hmessage]

end Request

/-- The span tool on the forms of two spans carries out the question about them. -/
theorem spanTool_pair {op : PairOp} {a b : Text} {s t : Span}
    (ha : Bracketed.ofSpan? s = some a) (hb : Bracketed.ofSpan? t = some b) :
    spanTool [Summary.opName op, a, b] =
      (Request.pair op (.text a) (.text b)).run ⟨false, false⟩ := by
  have hread : Arguments.read [Summary.opName op, a, b] =
      .ok (⟨false, false⟩, .pair op (.text a) (.text b)) :=
    Arguments.read_pair (Bracketed.isOperand_of_ofSpan? ha)
      (Bracketed.isOperand_of_ofSpan? hb)
  rw [spanTool, hread]

/-! ## Whole expressions -/

namespace Finding

def kind : Finding → AnswerKind
  | .span _ => .span
  | .truth _ => .truth

theorem kind_of_answer {op : PairOp} {a b : Span} {finding : Finding}
    (h : op.answer a b = .ok finding) : finding.kind = op.kind := by
  cases op with
  | enclosing =>
      obtain ⟨s, -, rfl⟩ := map_eq_ok_iff.mp h
      rfl
  | gap =>
      obtain ⟨s, -, rfl⟩ := map_eq_ok_iff.mp h
      rfl
  | inner =>
      obtain ⟨s, -, rfl⟩ := map_eq_ok_iff.mp h
      rfl
  | overlaps =>
      obtain rfl := Except.ok.inj h
      rfl

end Finding

namespace Expression

/-- A line agrees with an outcome of the operations on values: it is the text of
the value, and there is none where a combination is impossible. -/
inductive Agrees : AnswerKind → Except Fault Value → Option Text → Prop
  | span {s : Span} {t : Text} (ht : (Value.span s).display? = some t) :
      Agrees .span (.ok (.span s)) (some t)
  | truth (b : Bool) :
      Agrees .truth (.ok (.bool b)) (some (if b then "true" else "false" : Text))
  | impossible {k : AnswerKind} (e : Span.Negative) :
      Agrees k (.error (Fault.ofNegative e)) none

theorem agrees_finding {finding : Finding} {t : Text}
    (h : Summary.findingText? finding = some t) :
    Agrees finding.kind (.ok finding.value) (some t) := by
  cases finding with
  | span s => exact .span h
  | truth b =>
      obtain rfl := Option.some.inj h
      exact .truth b

theorem line?_of_status_zero (text : Text) :
    Run.line? ⟨.status 0, text.withNewline, []⟩ = some text := by
  simp [Run.line?, withNewline]

/-- One question about two spans that have lines: the run of the tool agrees with
the operation. -/
theorem agrees_ask {op : PairOp} {s t : Span} {a b : Text}
    (ha : Bracketed.ofSpan? s = some a) (hb : Bracketed.ofSpan? t = some b) :
    Agrees op.kind ((Value.answer op (.span s) (.span t)).map Finding.value)
      (spanTool [Summary.opName op, a, b]).line? := by
  have hreadA := Bracketed.read_of_ofSpan? ha
  have hreadB := Bracketed.read_of_ofSpan? hb
  have hanswer : Value.answer op (.span s) (.span t) =
      (op.answer s t).mapError Fault.ofNegative := rfl
  rw [spanTool_pair ha hb, hanswer]
  cases h : op.answer s t with
  | ok finding =>
      obtain ⟨text, htext, hrun⟩ := Request.run_pair_of_ok hreadA hreadB h
      rw [hrun, line?_of_status_zero, ← Finding.kind_of_answer h]
      exact agrees_finding htext
  | error e =>
      obtain ⟨message, -, hrun⟩ := Request.run_pair_of_error hreadA hreadB h
      rw [hrun]
      exact .impossible e

/-- Running the tool for every question of an expression agrees with evaluating
the expression.  The induction is on the expression; that the parts are spans
with lines of their own is what makes the next question readable. -/
theorem agrees {k : AnswerKind} (e : Expression k) : Agrees k e.value e.line? := by
  induction e with
  | leaf s hs =>
      obtain ⟨t, ht⟩ : ∃ t, (Value.span s).display? = some t :=
        ⟨_, Bracketed.ofSpan?_of_lt hs⟩
      rw [value_leaf, line?_leaf, ht]
      exact .span ht
  | ask op left right ihLeft ihRight =>
      rw [value_ask, line?_ask]
      generalize left.value = v, left.line? = a at ihLeft
      generalize right.value = w, right.line? = b at ihRight
      cases ihLeft with
      | impossible e => exact .impossible e
      | span ha =>
          cases ihRight with
          | impossible e => exact .impossible e
          | span hb => exact agrees_ask ha hb

theorem exists_line?_of_value {e : Expression .span} {v : Value} (h : e.value = .ok v) :
    ∃ s t, v = .span s ∧ Bracketed.ofSpan? s = some t ∧ e.line? = some t := by
  have hagrees := e.agrees
  rw [h] at hagrees
  generalize hline : e.line? = line at hagrees
  cases hagrees with
  | span ht => exact ⟨_, _, rfl, ht, rfl⟩

end Expression

/-- Running the span tool once for every question of an expression, with what the
runs before have printed for its arguments, refines the operations on values.
The expression as a whole comes to the line of its value, and to no line exactly
where a combination is impossible.  At every question whose parts have values,
the run ends with status one and prints nothing exactly when the operation
complains of a negative number; otherwise there is an answer, and the run ends
well and prints the answer and nothing else. -/
theorem spanTool_evaluates :
    (∀ (k : AnswerKind) (e : Expression k), Expression.Agrees k e.value e.line?) ∧
    (∀ (op : PairOp) (left right : Expression .span) (v w : Value),
      left.value = .ok v → right.value = .ok w →
      ∃ a b, left.line? = some a ∧ right.line? = some b ∧
        ((spanTool [Summary.opName op, a, b]).ending = .status 1 ∧
            (spanTool [Summary.opName op, a, b]).out = [] ↔
          ∃ e, Value.answer op v w = .error (Fault.ofNegative e)) ∧
        ((¬∃ e, Value.answer op v w = .error (Fault.ofNegative e)) →
          ∃ finding text, Value.answer op v w = .ok finding ∧
            Summary.findingText? finding = some text ∧
            spanTool [Summary.opName op, a, b] =
              ⟨.status 0, text.withNewline, []⟩)) := by
  refine ⟨fun k e => e.agrees, ?_⟩
  intro op left right v w hleft hright
  obtain ⟨s, a, rfl, ha, hlineA⟩ := Expression.exists_line?_of_value hleft
  obtain ⟨t, b, rfl, hb, hlineB⟩ := Expression.exists_line?_of_value hright
  have hreadA := Bracketed.read_of_ofSpan? ha
  have hreadB := Bracketed.read_of_ofSpan? hb
  have hanswer : Value.answer op (.span s) (.span t) =
      (op.answer s t).mapError Fault.ofNegative := rfl
  refine ⟨a, b, hlineA, hlineB, ?_⟩
  rw [spanTool_pair ha hb, hanswer]
  cases h : op.answer s t with
  | ok finding =>
      obtain ⟨text, htext, hrun⟩ := Request.run_pair_of_ok hreadA hreadB h
      rw [hrun]
      refine ⟨by simp [Except.mapError], fun _ => ?_⟩
      exact ⟨finding, text, rfl, htext, rfl⟩
  | error e =>
      obtain ⟨message, -, hrun⟩ := Request.run_pair_of_error hreadA hreadB h
      rw [hrun]
      refine ⟨⟨fun _ => ⟨e, rfl⟩, fun _ => ⟨rfl, rfl⟩⟩, fun hno => ?_⟩
      exact absurd ⟨e, rfl⟩ hno

end SourceSpans
