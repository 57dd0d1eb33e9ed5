import SourceSpans.Proofs.Tool.Outcome
import SourceSpans.Proofs.Tool.Printing

/-!
# All texts or none

The command that reads texts prints the numbers of every text or prints nothing.
Texts are read from left to right and nothing is printed before the last one is
read, so the first text that is no span decides how the command ends, and the texts
behind it are not looked at.  When every text is a span there is one line for each,
and the lines of two lists of texts are printed one after the other.
-/

namespace SourceSpans

open Text

namespace Request

/-- The text is read as the span. -/
def Accepts (t : Text) (s : Span) : Prop := (Value.text t).readSpan?.1 = some s

/-- Reading stops at the first of the texts that is no span. -/
structure StopsAt (texts before : List Text) (t : Text) (after : List Text) : Prop where
  split : texts = before ++ t :: after
  accepted : ∀ u ∈ before, ∃ s, Accepts u s
  rejected : (Value.text t).readSpan?.1 = none

/-- The numbers of a span on one line. -/
def numbersLine (s : Span) : Text :=
  "start=" ++ Numeral.digits s.start ++ " length=" ++ Numeral.digits s.length ++
    " end=" ++ Numeral.digits s.stop

/-- What is said of a text that is no span. -/
def rejectionLine (t : Text) : Text :=
  "textspan: error: " ++
    ("the specified text span string " ++ Quoted.ofText t ++ " is not valid")

variable {texts before after : List Text} {t : Text} {s : Span} {ss : List Span}

theorem Accepts.readSpan (h : Accepts t s) : (Value.text t).readSpan = (.ok s, []) :=
  Value.readSpan_text.mpr ⟨Value.readSpan?_fst_text.mp h, rfl⟩

theorem exists_read_of_rejected (h : (Value.text t).readSpan?.1 = none) :
    ∃ why, Bracketed.read t = .error why := by
  cases hread : Bracketed.read t with
  | ok s =>
      rw [Value.readSpan?_fst_text.mpr hread] at h
      cases h
  | error why => exact ⟨why, rfl⟩

/-! ## Reading -/

theorem readAll_of_accepted (h : List.Forall₂ Accepts texts ss) :
    readAll texts = (.ok ss, []) := by
  induction h with
  | nil => rfl
  | cons hone _ ih =>
      rw [readAll, hone.readSpan, ih]
      rfl

/-- What is behind the first text that is no span does not matter. -/
theorem readAll_of_rejected {why : Bracketed.Rejection}
    (hbefore : ∀ u ∈ before, ∃ s, Accepts u s) (ht : Bracketed.read t = .error why) :
    readAll (before ++ t :: after) =
      (.error (.complaint (.malformed (.text t))), [Log.rejected t why]) := by
  induction before with
  | nil => rw [List.nil_append, readAll, Value.readSpan, Value.readSpan?, ht]
  | cons u rest ih =>
      obtain ⟨⟨s, hu⟩, hrest⟩ := List.forall_mem_cons.mp hbefore
      rw [List.cons_append, readAll, hu.readSpan, ih hrest]
      rfl

theorem accepted_or_stopsAt (texts : List Text) :
    (∃ ss, List.Forall₂ Accepts texts ss) ∨ ∃ before t after, StopsAt texts before t after := by
  cases hread : (readAll texts).1 with
  | ok ss => exact .inl ⟨ss, readAll_eq_ok_iff.mp hread⟩
  | error f =>
      obtain ⟨before, t, after, hsplit, hbefore, ht, -⟩ := readAll_eq_error_iff.mp hread
      exact .inr ⟨before, t, after, hsplit, hbefore, ht⟩

/-! ## The run -/

/-- The log of the command, when it is shown: the command and some records. -/
def parseLog (verbose : Bool) (records : List Text) : List Text :=
  if verbose then "DEBUG textspan.cli: running parse" :: records else []

theorem logLines_parse (verbose : Bool) (texts : List Text) :
    (Request.parse texts).logLines verbose =
      parseLog verbose ((readAll texts).2.map Log.Entry.line) := by
  have hrunning : (Log.running Command.parse.name).line =
      "DEBUG textspan.cli: running parse" := by decide
  rw [logLines, command, List.map_cons, hrunning]
  rfl

theorem run_parse_of_accepted (how : Presentation) (h : List.Forall₂ Accepts texts ss) :
    (Request.parse texts).run how =
      (Run.printing ((ss.map Finding.span).map (line how.json .parse))).after
        (ofLines (parseLog how.verbose [])) := by
  have hresults : (Request.parse texts).results.1 = .ok (ss.map .span) := by
    rw [results_parse, readAll_of_accepted h]
    rfl
  rw [run_eq, hresults, logLines_parse, readAll_of_accepted h]
  rfl

theorem failing_malformed (t : Text) :
    failing (.complaint (.malformed (.text t))) =
      ⟨.status 1, [], (rejectionLine t).withNewline⟩ := by
  have hmessage : (Complaint.malformed (.text t)).message? =
      some ("the specified text span string " ++ Quoted.ofText t ++ " is not valid") := by
    rw [Complaint.message?, Value.literal?]
    rfl
  rw [failing, hmessage]
  rfl

theorem run_parse_of_rejected (how : Presentation) {why : Bracketed.Rejection}
    (hbefore : ∀ u ∈ before, ∃ s, Accepts u s) (ht : Bracketed.read t = .error why) :
    (Request.parse (before ++ t :: after)).run how =
      ⟨.status 1, [],
        ofLines (parseLog how.verbose [(Log.rejected t why).line] ++ [rejectionLine t])⟩ := by
  have hresults : (Request.parse (before ++ t :: after)).results.1 =
      .error (.complaint (.malformed (.text t))) := by
    rw [results_parse, readAll_of_rejected hbefore ht]
    rfl
  have hlog : (Request.parse (before ++ t :: after)).logLines how.verbose =
      parseLog how.verbose [(Log.rejected t why).line] := by
    rw [logLines_parse, readAll_of_rejected hbefore ht]
    rfl
  rw [run_eq, hresults, hlog]
  dsimp only
  rw [failing_malformed, Run.after, ofLines_append]
  simp [ofLines]

/-- Spans that were read can be printed to the last in either presentation. -/
theorem printing_of_accepted (json : Bool) (h : List.Forall₂ Accepts texts ss) :
    ∃ lines : List Text, lines.length = texts.length ∧ (∀ l ∈ lines, l.Unbroken) ∧
      Run.printing ((ss.map Finding.span).map (line json .parse)) =
        ⟨.status 0, ofLines lines, []⟩ := by
  have hwritable : ∀ finding ∈ ss.map Finding.span, finding.Writable := by
    intro finding hfinding
    obtain ⟨s, hs, rfl⟩ := List.mem_map.mp hfinding
    obtain ⟨t, -, ht⟩ := Success.exists_of_mem_forall₂ h hs
    exact Value.stop_lt_of_readSpan? ht
  obtain ⟨lines, hlength, hunbroken, hprinting⟩ :=
    printing_of_writable json .parse hwritable
  refine ⟨lines, ?_, hunbroken, hprinting⟩
  rw [hlength, List.length_map, h.length_eq]

theorem line_of_accepts (h : Accepts t s) :
    line false .parse (.span s) = .ok (numbersLine s) := by
  have hnumbers := numbersText?_of_lt (Value.stop_lt_of_readSpan? h)
  simp only [line, plainLine?, hnumbers]
  rfl

theorem lines_of_accepted (h : List.Forall₂ Accepts texts ss) :
    (ss.map Finding.span).map (line false .parse) = (ss.map numbersLine).map .ok := by
  induction h with
  | nil => rfl
  | cons hone _ ih =>
      simp only [List.map_cons, line_of_accepts hone]
      rw [ih]

theorem unbroken_numbersLine (h : Accepts t s) : (numbersLine s).Unbroken := by
  have hlimit := Value.stop_lt_of_readSpan? h
  exact (plain_of_numbersText? hlimit (numbersText?_of_lt hlimit)).unbroken

/-! ## How the command ends -/

/-- The command ends well, with a line for each text, when all are accepted. -/
theorem exists_run_of_accepted (how : Presentation) (h : List.Forall₂ Accepts texts ss) :
    ∃ lines : List Text, lines.length = texts.length ∧ (∀ l ∈ lines, l.Unbroken) ∧
      (Request.parse texts).run how =
        ⟨.status 0, ofLines lines, ofLines (parseLog how.verbose [])⟩ := by
  obtain ⟨lines, hlength, hunbroken, hprinting⟩ := printing_of_accepted how.json h
  refine ⟨lines, hlength, hunbroken, ?_⟩
  rw [run_parse_of_accepted how h, hprinting]
  simp [Run.after]

theorem run_of_stopsAt (how : Presentation) (h : StopsAt texts before t after) :
    ∃ why, Bracketed.read t = .error why ∧
      (Request.parse texts).run how = ⟨.status 1, [],
        ofLines (parseLog how.verbose [(Log.rejected t why).line] ++ [rejectionLine t])⟩ := by
  obtain ⟨why, hwhy⟩ := exists_read_of_rejected h.rejected
  refine ⟨why, hwhy, ?_⟩
  rw [h.split]
  exact run_parse_of_rejected how h.accepted hwhy

theorem StopsAt.not_accepted (h : StopsAt texts before t after) :
    ¬∀ t ∈ texts, ∃ s, Accepts t s := by
  intro hall
  have hmem : t ∈ texts := by
    rw [h.split]
    exact List.mem_append_right before List.mem_cons_self
  obtain ⟨s, hs⟩ := hall t hmem
  cases h.rejected.symm.trans hs

theorem ending_run_parse_eq_zero_iff (how : Presentation) (texts : List Text) :
    ((Request.parse texts).run how).ending = .status 0 ↔ ∀ t ∈ texts, ∃ s, Accepts t s := by
  rcases accepted_or_stopsAt texts with ⟨ss, h⟩ | ⟨before, t, after, h⟩
  · obtain ⟨lines, -, -, hrun⟩ := exists_run_of_accepted how h
    rw [hrun]
    refine iff_of_true rfl ?_
    intro t ht
    obtain ⟨s, -, hs⟩ := Success.exists_of_mem_forall₂ h.flip ht
    exact ⟨s, hs⟩
  · obtain ⟨why, -, hrun⟩ := run_of_stopsAt how h
    rw [hrun]
    exact iff_of_false (by simp) h.not_accepted

theorem ending_run_parse_eq_one_iff (how : Presentation) (texts : List Text) :
    ((Request.parse texts).run how).ending = .status 1 ↔
      ∃ before t after, StopsAt texts before t after := by
  rcases accepted_or_stopsAt texts with ⟨ss, h⟩ | ⟨before, t, after, h⟩
  · obtain ⟨lines, -, -, hrun⟩ := exists_run_of_accepted how h
    have hall := (ending_run_parse_eq_zero_iff how texts).mp (by rw [hrun])
    rw [hrun]
    refine iff_of_false (by simp) ?_
    intro hstops
    obtain ⟨before, t, after, hstops⟩ := hstops
    exact hstops.not_accepted hall
  · obtain ⟨why, -, hrun⟩ := run_of_stopsAt how h
    rw [hrun]
    exact iff_of_true rfl ⟨before, t, after, h⟩

theorem exists_accepted_of_forall (h : ∀ t ∈ texts, ∃ s, Accepts t s) :
    ∃ ss, List.Forall₂ Accepts texts ss := by
  rcases accepted_or_stopsAt texts with hss | ⟨before, t, after, hstops⟩
  · exact hss
  · exact absurd h hstops.not_accepted

theorem run_parse_plain (how : Presentation) (h : List.Forall₂ Accepts texts ss)
    (hplain : how.json = false) :
    ((Request.parse texts).run how).out = ofLines (ss.map numbersLine) ∧
      ((Request.parse texts).run how).out.lines = ss.map numbersLine := by
  have hout : ((Request.parse texts).run how).out = ofLines (ss.map numbersLine) := by
    rw [run_parse_of_accepted how h, hplain, lines_of_accepted h, Run.printing_ok]
    rfl
  have hunbroken : ∀ l ∈ ss.map numbersLine, l.Unbroken := by
    intro l hl
    obtain ⟨s, hs, rfl⟩ := List.mem_map.mp hl
    obtain ⟨t, -, ht⟩ := Success.exists_of_mem_forall₂ h hs
    exact unbroken_numbersLine ht
  refine ⟨hout, ?_⟩
  rw [hout, lines_ofLines_of_unbroken hunbroken]

/-- The outputs for two lists of accepted texts stand one after the other in the output
for the two lists together. -/
theorem run_parse_append (how : Presentation) {texts' : List Text}
    (h : ∀ t ∈ texts, ∃ s, Accepts t s) (h' : ∀ t ∈ texts', ∃ s, Accepts t s) :
    ((Request.parse (texts ++ texts')).run how).out =
      ((Request.parse texts).run how).out ++ ((Request.parse texts').run how).out := by
  obtain ⟨ss, hss⟩ := exists_accepted_of_forall h
  obtain ⟨ss', hss'⟩ := exists_accepted_of_forall h'
  obtain ⟨lines, -, -, hlines⟩ := printing_of_accepted how.json hss
  obtain ⟨lines', -, -, hlines'⟩ := printing_of_accepted how.json hss'
  have hprinting := Run.printing_append (congrArg Run.ending hlines)
    (congrArg Run.ending hlines')
  rw [run_parse_of_accepted how hss, run_parse_of_accepted how hss',
    run_parse_of_accepted how (List.rel_append hss hss'), List.map_append, List.map_append,
    hprinting]
  rfl

end Request

/-- The command that reads texts, on any command line that asks for it.  It ends well
when every text is a span and fails when one is not.  When it ends well it has one
line for each text and no record, and in plain text the lines show the three numbers
of the spans.  When it fails it prints nothing, says what the first text is that is no
span, and keeps one record, of this text; what is behind the text makes no
difference.  The lines for two lists of spans are printed one after the other. -/
theorem spanTool_parses_all {args : List Text} {how : Presentation} {texts : List Text}
    (hread : Arguments.read args = .ok (how, .parse texts)) :
    ((spanTool args).ending = .status 0 ↔ ∀ t ∈ texts, ∃ s, Request.Accepts t s) ∧
      ((spanTool args).ending = .status 1 ↔
        ∃ before t after, Request.StopsAt texts before t after) ∧
      ((spanTool args).ending = .status 0 ∨ (spanTool args).ending = .status 1) ∧
      (∀ ss, List.Forall₂ Request.Accepts texts ss →
        (spanTool args).err = ofLines (Request.parseLog how.verbose []) ∧
          (spanTool args).out.lines.length = texts.length ∧
          (how.json = false →
            (spanTool args).out = ofLines (ss.map Request.numbersLine) ∧
              (spanTool args).out.lines = ss.map Request.numbersLine) ∧
          ∀ s ∈ ss, s.start + s.length = s.stop) ∧
      (∀ before t after, Request.StopsAt texts before t after →
        (spanTool args).out = [] ∧
          (∃ why, Bracketed.read t = .error why ∧
            (spanTool args).err = ofLines
              (Request.parseLog how.verbose [(Log.rejected t why).line] ++
                [Request.rejectionLine t])) ∧
          ∀ args' after', Arguments.read args' = .ok (how, .parse (before ++ t :: after')) →
            spanTool args' = spanTool args) ∧
      ∀ args' args'' texts', Arguments.read args' = .ok (how, .parse texts') →
        Arguments.read args'' = .ok (how, .parse (texts ++ texts')) →
        (spanTool args).ending = .status 0 → (spanTool args').ending = .status 0 →
          (spanTool args'').ending = .status 0 ∧
            (spanTool args'').out = (spanTool args).out ++ (spanTool args').out := by
  have hrun : spanTool args = (Request.parse texts).run how := by rw [spanTool, hread]
  rw [hrun]
  refine ⟨Request.ending_run_parse_eq_zero_iff how texts,
    Request.ending_run_parse_eq_one_iff how texts, ?_, ?_, ?_, ?_⟩
  · rcases Request.accepted_or_stopsAt texts with ⟨ss, h⟩ | ⟨before, t, after, h⟩
    · obtain ⟨lines, -, -, hlines⟩ := Request.exists_run_of_accepted how h
      exact .inl (by rw [hlines])
    · obtain ⟨why, -, hstopped⟩ := Request.run_of_stopsAt how h
      exact .inr (by rw [hstopped])
  · intro ss hss
    obtain ⟨lines, hlength, hunbroken, hlines⟩ := Request.exists_run_of_accepted how hss
    refine ⟨by rw [hlines], ?_, ?_, fun s _ => rfl⟩
    · rw [hlines, lines_ofLines_of_unbroken hunbroken, hlength]
    · intro hplain
      exact Request.run_parse_plain how hss hplain
  · intro before t after hstops
    obtain ⟨why, hwhy, hstopped⟩ := Request.run_of_stopsAt how hstops
    refine ⟨by rw [hstopped], ⟨why, hwhy, by rw [hstopped]⟩, ?_⟩
    intro args' after' hread'
    have hrun' : spanTool args' = (Request.parse (before ++ t :: after')).run how := by
      rw [spanTool, hread']
    rw [hrun', hstopped, Request.run_parse_of_rejected how hstops.accepted hwhy]
  · intro args' args'' texts' hread' hread'' hends hends'
    have hrun' : spanTool args' = (Request.parse texts').run how := by
      rw [spanTool, hread']
    have hrun'' : spanTool args'' = (Request.parse (texts ++ texts')).run how := by
      rw [spanTool, hread'']
    rw [hrun'] at hends' ⊢
    rw [hrun'']
    have hall := (Request.ending_run_parse_eq_zero_iff how texts).mp hends
    have hall' := (Request.ending_run_parse_eq_zero_iff how texts').mp hends'
    refine ⟨?_, Request.run_parse_append how hall hall'⟩
    rw [Request.ending_run_parse_eq_zero_iff]
    intro t ht
    exact (List.mem_append.mp ht).elim (hall t) (hall' t)

/-- Of three texts the second one is no span: nothing is printed for the first one, and
nothing is said of the third. -/
theorem spanTool_parses_all_second_rejected :
    Arguments.read ["-v", "parse", "[4:9]", "x", "y"] =
        .ok (⟨false, true⟩, .parse ["[4:9]", "x", "y"]) ∧
      (spanTool ["-v", "parse", "[4:9]", "x", "y"]).ending = .status 1 ∧
      (spanTool ["-v", "parse", "[4:9]", "x", "y"]).out = [] ∧
      (spanTool ["-v", "parse", "[4:9]", "x", "y"]).err =
        ofLines ["DEBUG textspan.cli: running parse",
          "DEBUG textspan.spans: rejected span text 'x': no match",
          "textspan: error: the specified text span string 'x' is not valid"] := by
  have hquiet : Arguments.read ["parse", "[4:9]", "x", "y"] =
      .ok (⟨false, false⟩, .parse ["[4:9]", "x", "y"]) :=
    Arguments.read_parse (by decide) (by decide)
  have hread : Arguments.read ["-v", "parse", "[4:9]", "x", "y"] =
      .ok (⟨false, true⟩, .parse ["[4:9]", "x", "y"]) :=
    Arguments.read_flags (by decide) hquiet ⟨false, true⟩
  have hstops : Request.StopsAt ["[4:9]", "x", "y"] ["[4:9]"] "x" ["y"] := by
    refine ⟨rfl, ?_, rfl⟩
    intro u hu
    obtain rfl := List.mem_singleton.mp hu
    exact ⟨⟨4, 5⟩, rfl⟩
  obtain ⟨-, hfails, -, -, hstopped, -⟩ := spanTool_parses_all hread
  obtain ⟨hout, ⟨why, hwhy, herr⟩, -⟩ := hstopped _ _ _ hstops
  have hnoMatch : Bracketed.read "x" = .error .noMatch := by rfl
  obtain rfl : Bracketed.Rejection.noMatch = why :=
    Except.error.inj (hnoMatch.symm.trans hwhy)
  refine ⟨hread, hfails.mpr ⟨_, _, _, hstops⟩, hout, ?_⟩
  rw [herr]
  decide +kernel

end SourceSpans
