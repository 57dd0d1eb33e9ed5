import SourceSpans.Proofs.Tool.Arguments
import SourceSpans.Proofs.Tool.Printing

/-!
# What a request comes to

A request fails at the first number or text that it cannot use, and otherwise
it has its results.  Which of the two happens, and what the complaint is, is
said here by the arguments alone.  Everything that is read ends below the limit
of numerals and no combination reaches further, so a result can be too long to
be printed only where both of its numbers were given by the user.
-/

namespace SourceSpans

open Success

namespace Request

/-- What is wrong first with a request that cannot be carried out: a negative
number, a value that is not the bracketed form of a span, or a pair of spans
with nothing between or inside them. -/
inductive Fails : Request → Complaint → Prop
  | negativeStart {m n : Int} (hm : m < 0) :
      Fails (.format (.int m) (.int n)) (Span.Negative.complaint ⟨.start, m⟩)
  | negativeLength {m n : Int} (hm : 0 ≤ m) (hn : n < 0) :
      Fails (.format (.int m) (.int n)) (Span.Negative.complaint ⟨.length, n⟩)
  | rejected {before after : List Text} {t : Text}
      (hbefore : ∀ u ∈ before, ∃ s, (Value.text u).readSpan?.1 = some s)
      (ht : (Value.text t).readSpan?.1 = none) :
      Fails (.parse (before ++ t :: after)) (.malformed (.text t))
  | rejectedFirst {op : PairOp} {a b : Value} (ha : a.readSpan?.1 = none) :
      Fails (.pair op a b) (.malformed a)
  | rejectedSecond {op : PairOp} {a b : Value} {s : Span}
      (ha : a.readSpan?.1 = some s) (hb : b.readSpan?.1 = none) :
      Fails (.pair op a b) (.malformed b)
  | impossible {op : PairOp} {a b : Value} {s t : Span} {e : Span.Negative}
      (hop : op = .gap ∨ op = .inner)
      (ha : a.readSpan?.1 = some s) (hb : b.readSpan?.1 = some t)
      (he : op.answer s t = .error e) :
      Fails (.pair op a b) e.complaint

/-- A start and a length that are both in order but lead beyond the limit of
numerals. -/
def Overlong : Request → Prop
  | .format (.int m) (.int n) => 0 ≤ m ∧ 0 ≤ n ∧ (Numeral.limit : Int) ≤ m + n
  | _ => False

/-- The start and the length of a request for a new span are integers, as they
are when each is given by an argument of its own. -/
def HasIntegers : Request → Prop
  | .format start length => (∃ m, start = .int m) ∧ ∃ n, length = .int n
  | _ => True

/-- How many results a request has. -/
def resultCount : Request → Nat
  | .parse texts => texts.length
  | _ => 1

/-! ## Reading texts -/

theorem readAll_fst_eq_mapM (texts : List Text) :
    (readAll texts).1 =
      texts.mapM fun t => (Value.text t).readSpan.1.mapError Fault.complaint := by
  induction texts with
  | nil => rfl
  | cons t rest ih =>
      rw [List.mapM_cons, ← ih, readAll]
      rcases (Value.text t).readSpan with ⟨c | s, log⟩
      · rfl
      · rcases readAll rest with ⟨c | others, more⟩
        · rfl
        · rfl

/-- Reading texts succeeds when every text is accepted. -/
theorem readAll_eq_ok_iff {texts : List Text} {ss : List Span} :
    (readAll texts).1 = .ok ss ↔
      List.Forall₂ (fun t s => (Value.text t).readSpan?.1 = some s) texts ss := by
  simp only [readAll_fst_eq_mapM, mapM_eq_ok_iff, mapError_eq_ok_iff,
    Value.readSpan_fst_eq_ok_iff]

/-- Reading texts fails at the first one that is rejected. -/
theorem readAll_eq_error_iff {texts : List Text} {f : Fault} :
    (readAll texts).1 = .error f ↔
      ∃ before t after, texts = before ++ t :: after ∧
        (∀ u ∈ before, ∃ s, (Value.text u).readSpan?.1 = some s) ∧
        (Value.text t).readSpan?.1 = none ∧ f = .complaint (.malformed (.text t)) := by
  simp only [readAll_fst_eq_mapM, mapM_eq_error_iff, mapError_eq_ok_iff,
    mapError_eq_error_iff, Value.readSpan_fst_eq_ok_iff, Value.readSpan_fst_eq_error_iff,
    and_assoc, exists_and_left, exists_eq_left, @eq_comm Fault _ f]

/-! ## Answering -/

variable {op : PairOp} {a b : Value} {s t : Span}

/-- Both arguments are read before the question is answered. -/
theorem answer_fst_eq_bind :
    (answer op a b).1 = (do
      let s ← a.readSpan.1.mapError Fault.complaint
      let t ← b.readSpan.1.mapError Fault.complaint
      (op.answer s t).mapError Fault.ofNegative) := by
  rw [answer]
  rcases a.readSpan with ⟨c | s, log⟩
  · rfl
  · rcases b.readSpan with ⟨c | t, more⟩
    · rfl
    · rfl

theorem answer_of_some_some (ha : a.readSpan?.1 = some s)
    (hb : b.readSpan?.1 = some t) :
    (answer op a b).1 = (op.answer s t).mapError Fault.ofNegative := by
  rw [answer, Value.readSpan_of_some ha, Value.readSpan_of_some hb]

/-- An answer is given to two values that are both read as spans. -/
theorem answer_eq_ok_iff {finding : Finding} :
    (answer op a b).1 = .ok finding ↔
      ∃ s, a.readSpan?.1 = some s ∧
        ∃ t, b.readSpan?.1 = some t ∧ op.answer s t = .ok finding := by
  simp only [answer_fst_eq_bind, bind_eq_ok_iff, mapError_eq_ok_iff,
    Value.readSpan_fst_eq_ok_iff]

theorem answer_eq_error_iff {f : Fault} :
    (answer op a b).1 = .error f ↔ ∃ c, Fails (.pair op a b) c ∧ f = .complaint c := by
  simp only [answer_fst_eq_bind, bind_eq_error_iff, mapError_eq_ok_iff,
    mapError_eq_error_iff, Value.readSpan_fst_eq_ok_iff, Value.readSpan_fst_eq_error_iff]
  constructor
  · rintro (⟨-, ⟨ha, rfl⟩, rfl⟩ | ⟨s, ha, ⟨-, ⟨hb, rfl⟩, rfl⟩ | ⟨t, hb, e, he, rfl⟩⟩)
    · exact ⟨_, .rejectedFirst ha, rfl⟩
    · exact ⟨_, .rejectedSecond ha hb, rfl⟩
    · exact ⟨_, .impossible (PairOp.gap_or_inner_of_answer_error he) ha hb he, rfl⟩
  · rintro ⟨c, hc, rfl⟩
    cases hc with
    | rejectedFirst ha => exact .inl ⟨_, ⟨ha, rfl⟩, rfl⟩
    | rejectedSecond ha hb => exact .inr ⟨_, ha, .inl ⟨_, ⟨hb, rfl⟩, rfl⟩⟩
    | impossible _ ha hb he => exact .inr ⟨_, ha, .inr ⟨_, hb, _, he, rfl⟩⟩

/-! ## A start and a length -/

theorem makeSpan_int (m n : Int) :
    Value.makeSpan (.int m) (.int n) = (Span.ofInts m n).mapError Fault.ofNegative :=
  rfl

theorem makeSpan_eq_error_iff {m n : Int} {f : Fault} :
    Value.makeSpan (.int m) (.int n) = .error f ↔
      ∃ c, Fails (.format (.int m) (.int n)) c ∧ f = .complaint c := by
  rw [makeSpan_int, mapError_eq_error_iff, Span.ofInts]
  by_cases hm : m < 0
  · rw [if_pos hm]
    constructor
    · rintro ⟨e, he, rfl⟩
      obtain rfl := Except.error.inj he
      exact ⟨_, .negativeStart hm, rfl⟩
    · rintro ⟨c, hc, rfl⟩
      cases hc with
      | negativeStart => exact ⟨_, rfl, rfl⟩
      | negativeLength hm' => exact absurd hm (Int.not_lt.mpr hm')
  · rw [if_neg hm]
    by_cases hn : n < 0
    · rw [if_pos hn]
      constructor
      · rintro ⟨e, he, rfl⟩
        obtain rfl := Except.error.inj he
        exact ⟨_, .negativeLength (Int.not_lt.mp hm) hn, rfl⟩
      · rintro ⟨c, hc, rfl⟩
        cases hc with
        | negativeStart hm' => exact absurd hm' hm
        | negativeLength => exact ⟨_, rfl, rfl⟩
    · rw [if_neg hn]
      constructor
      · rintro ⟨e, he, -⟩
        simp at he
      · rintro ⟨c, hc, -⟩
        cases hc with
        | negativeStart hm' => exact absurd hm' hm
        | negativeLength _ hn' => exact absurd hn' hn

theorem makeSpan_eq_ok {m n : Int} {s : Span}
    (h : Value.makeSpan (.int m) (.int n) = .ok s) :
    0 ≤ m ∧ 0 ≤ n ∧ (s.stop : Int) = m + n := by
  rw [makeSpan_int, mapError_eq_ok_iff, Span.ofInts] at h
  by_cases hm : m < 0
  · simp [hm] at h
  · by_cases hn : n < 0
    · simp [hm, hn] at h
    · rw [if_neg hm, if_neg hn] at h
      obtain rfl := Except.ok.inj h
      refine ⟨Int.not_lt.mp hm, Int.not_lt.mp hn, ?_⟩
      simp only [Span.stop]
      omega

/-! ## Results -/

theorem results_format {start length : Value} :
    (Request.format start length).results.1 =
      (Value.makeSpan start length).map fun s => [.span s] := rfl

theorem results_parse {texts : List Text} :
    (Request.parse texts).results.1 =
      (readAll texts).1.map fun ss => ss.map .span := rfl

theorem results_pair : (Request.pair op a b).results.1 =
    (answer op a b).1.map fun finding => [finding] := rfl

/-- A request fails exactly with what is wrong with it. -/
theorem results_eq_error_iff {request : Request} (hints : request.HasIntegers)
    {f : Fault} :
    request.results.1 = .error f ↔ ∃ c, Fails request c ∧ f = .complaint c := by
  cases request with
  | format start length =>
      obtain ⟨⟨m, rfl⟩, n, rfl⟩ := hints
      rw [results_format, map_eq_error_iff, makeSpan_eq_error_iff]
  | parse texts =>
      rw [results_parse, map_eq_error_iff, readAll_eq_error_iff]
      constructor
      · rintro ⟨before, t, after, rfl, hbefore, ht, rfl⟩
        exact ⟨_, .rejected hbefore ht, rfl⟩
      · rintro ⟨c, hc, rfl⟩
        cases hc with
        | rejected hbefore ht => exact ⟨_, _, _, rfl, hbefore, ht, rfl⟩
  | pair op a b => rw [results_pair, map_eq_error_iff, answer_eq_error_iff]

/-- There is only one thing that is wrong first. -/
theorem Fails.unique {request : Request} {c c' : Complaint}
    (hints : request.HasIntegers) (h : Fails request c) (h' : Fails request c') :
    c = c' := by
  have hresults := (results_eq_error_iff hints).mpr ⟨c, h, rfl⟩
  rw [(results_eq_error_iff hints).mpr ⟨c', h', rfl⟩] at hresults
  exact (Fault.complaint.inj (Except.error.inj hresults)).symm

/-- The results of a request are as many as it asks for, and all of them can be
printed unless the request leads beyond the limit. -/
theorem writable_of_results {request : Request} (hints : request.HasIntegers)
    {findings : List Finding} (h : request.results.1 = .ok findings) :
    findings.length = request.resultCount ∧
      (¬request.Overlong → ∀ finding ∈ findings, finding.Writable) ∧
      (request.Overlong → ∃ s, findings = [.span s] ∧ Numeral.limit ≤ s.stop) := by
  cases request with
  | format start length =>
      obtain ⟨⟨m, rfl⟩, n, rfl⟩ := hints
      rw [results_format] at h
      obtain ⟨s, hs, rfl⟩ := map_eq_ok_iff.mp h
      obtain ⟨hm, hn, hstop⟩ := makeSpan_eq_ok hs
      refine ⟨rfl, fun hshort => ?_, fun hlong => ⟨s, rfl, ?_⟩⟩
      · intro finding hfinding
        obtain rfl := List.mem_singleton.mp hfinding
        by_contra hnot
        have hlimit : Numeral.limit ≤ s.stop := Nat.le_of_not_lt hnot
        exact hshort ⟨hm, hn, hstop ▸ Int.ofNat_le.mpr hlimit⟩
      · obtain ⟨-, -, hlimit⟩ := hlong
        rw [← hstop] at hlimit
        exact Int.ofNat_le.mp hlimit
  | parse texts =>
      rw [results_parse] at h
      obtain ⟨ss, hss, rfl⟩ := map_eq_ok_iff.mp h
      have hread := readAll_eq_ok_iff.mp hss
      refine ⟨?_, fun _ => ?_, fun hlong => hlong.elim⟩
      · rw [List.length_map]
        exact hread.length_eq.symm
      · intro finding hfinding
        obtain ⟨s, hs, rfl⟩ := List.mem_map.mp hfinding
        obtain ⟨t, -, ht⟩ := exists_of_mem_forall₂ hread hs
        exact Value.stop_lt_of_readSpan? ht
  | pair op a b =>
      rw [results_pair] at h
      obtain ⟨finding, hfinding, rfl⟩ := map_eq_ok_iff.mp h
      refine ⟨rfl, fun _ => ?_, fun hlong => hlong.elim⟩
      intro finding' hmem
      obtain rfl := List.mem_singleton.mp hmem
      cases finding' with
      | truth b => trivial
      | span r =>
          obtain ⟨s, ha, t, hb, hanswer⟩ := answer_eq_ok_iff.mp hfinding
          exact PairOp.stop_lt_of_answer hanswer (Value.stop_lt_of_readSpan? ha)
            (Value.stop_lt_of_readSpan? hb)

/-- What is wrong with a request can be told in one line: the texts that it
shows are quoted, and the numbers are no greater than those that were read. -/
theorem Fails.tellable {request : Request} {c : Complaint} (h : Fails request c)
    (hpresentable : request.Presentable) : c.Tellable := by
  cases h with
  | negativeStart hm =>
      exact Complaint.tellable_negative (Value.presentable_int_iff.mp hpresentable.1)
  | negativeLength hm hn =>
      exact Complaint.tellable_negative (Value.presentable_int_iff.mp hpresentable.2)
  | rejected hbefore ht => exact Complaint.tellable_malformed (Value.presentable_text _)
  | rejectedFirst ha => exact Complaint.tellable_malformed hpresentable.1
  | rejectedSecond ha hb => exact Complaint.tellable_malformed hpresentable.2
  | impossible hop ha hb he =>
      exact Complaint.tellable_negative (PairOp.natAbs_lt_of_answer_error he
        (Value.stop_lt_of_readSpan? ha) (Value.stop_lt_of_readSpan? hb))

/-! ## Records -/

/-- The records of an outcome: one of the text that was rejected, when a rejected
text is what is wrong, and none otherwise. -/
inductive Logged {α : Type} : Outcome α → Prop
  | rejected {t : Text} {why : Bracketed.Rejection} (h : Bracketed.read t = .error why) :
      Logged (.error (.complaint (.malformed (.text t))), [Log.rejected t why])
  | silent {x : Except Fault α}
      (h : ∀ t, x ≠ .error (.complaint (.malformed (.text t)))) : Logged (x, [])

section Logged

variable {α β : Type} {v : Value}

theorem Logged.map {x : Except Fault α} {log : List Log.Entry} (h : Logged (x, log))
    (f : α → β) : Logged (x.map f, log) := by
  cases h with
  | rejected hread => exact .rejected hread
  | silent hx =>
      refine .silent fun t herror => ?_
      exact hx t (map_eq_error_iff.mp herror)

theorem Logged.exists_rejected {outcome : Outcome α} (h : Logged outcome)
    {e : Log.Entry} (he : e ∈ outcome.2) : ∃ t why, e = Log.rejected t why := by
  cases h with
  | rejected => exact ⟨_, _, List.mem_singleton.mp he⟩
  | silent => simp at he

/-- A value that is no span is recorded if it is a text. -/
theorem logged_of_readSpan_error {c : Complaint} {log : List Log.Entry}
    (h : v.readSpan = (.error c, log)) :
    Logged ((.error (.complaint c), log) : Outcome α) := by
  cases v with
  | text t =>
      rw [Value.readSpan, Value.readSpan?] at h
      cases hread : Bracketed.read t with
      | ok s => simp [hread] at h
      | error why =>
          simp only [hread, Prod.mk.injEq, Except.error.injEq] at h
          obtain ⟨rfl, rfl⟩ := h
          exact .rejected hread
  | _ =>
      simp only [Value.readSpan, Value.readSpan?, Prod.mk.injEq, Except.error.injEq] at h
      obtain ⟨rfl, rfl⟩ := h
      exact .silent (by simp)

theorem log_of_readSpan_ok {s : Span} {log : List Log.Entry}
    (h : v.readSpan = (.ok s, log)) : log = [] := by
  cases v with
  | text t => exact (Value.readSpan_text.mp h).2
  | _ => simp [Value.readSpan, Value.readSpan?] at h

theorem mapError_ofNegative_ne_malformed {x : Except Span.Negative α} (t : Text) :
    x.mapError Fault.ofNegative ≠ .error (.complaint (.malformed (.text t))) := by
  intro herror
  obtain ⟨e, -, he⟩ := mapError_eq_error_iff.mp herror
  simp [Fault.ofNegative, Span.Negative.complaint] at he

theorem makeSpan_ne_malformed {start length : Value} (t : Text) :
    Value.makeSpan start length ≠ .error (.complaint (.malformed (.text t))) := by
  rw [Value.makeSpan]
  split
  next => simp
  next =>
    split
    next => simp
    next => exact mapError_ofNegative_ne_malformed t

/-- Texts are recorded up to the first that is rejected, which is the only one. -/
theorem logged_readAll (texts : List Text) : Logged (readAll texts) := by
  induction texts with
  | nil => exact .silent (by simp)
  | cons t rest ih =>
      rw [readAll]
      split
      next c log hread => exact logged_of_readSpan_error hread
      next s log hread =>
        rw [log_of_readSpan_ok hread]
        exact ih.map (s :: ·)

theorem logged_answer (op : PairOp) (a b : Value) : Logged (answer op a b) := by
  rw [answer]
  split
  next c log hread => exact logged_of_readSpan_error hread
  next s log hread =>
    rw [log_of_readSpan_ok hread]
    split
    next c more hread => exact logged_of_readSpan_error hread
    next t more hread =>
      rw [log_of_readSpan_ok hread]
      exact .silent mapError_ofNegative_ne_malformed

/-- While a request is computed a record is kept of the text that it fails on,
and of nothing else. -/
theorem logged_results (request : Request) : Logged request.results := by
  cases request with
  | format start length => exact (Logged.silent makeSpan_ne_malformed).map _
  | parse texts => exact (logged_readAll texts).map _
  | pair op a b => exact (logged_answer op a b).map _

end Logged

end Request

end SourceSpans
