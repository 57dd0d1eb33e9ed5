import SourceSpans.Proofs.Tool.Results

/-!
# How the span tool ends

A command line that makes a request ends in one of three ways, each under a
condition on the request alone: with its results, with a complaint, or by a
fault when a span is asked for that no line can show.  Nothing is ever printed
before the tool fails.
-/

namespace SourceSpans

open Text

namespace Request

/-- The lines of the log, when it is shown. -/
def logLines (verbose : Bool) (request : Request) : List Text :=
  if verbose then
    (Log.running request.command.name :: request.results.2).map Log.Entry.line
  else []

theorem logText_eq (verbose : Bool) (request : Request) :
    logText verbose (Log.running request.command.name :: request.results.2) =
      ofLines (request.logLines verbose) := by
  cases verbose with
  | false => rfl
  | true => rfl

theorem unbroken_of_mem_logLines {verbose : Bool} {request : Request} {l : Text}
    (h : l ∈ request.logLines verbose) : l.Unbroken := by
  cases verbose with
  | false => simp [logLines] at h
  | true =>
      obtain ⟨e, he, rfl⟩ := List.mem_map.mp h
      rcases List.mem_cons.mp he with rfl | hresults
      · exact Log.unbroken_running request.command
      · obtain ⟨t, why, rfl⟩ := (logged_results request).exists_rejected hresults
        exact Log.unbroken_rejected t why

variable {how : Presentation} {request : Request}

theorem run_eq (how : Presentation) (request : Request) :
    request.run how =
      (match request.results.1 with
        | .error f => failing f
        | .ok findings =>
            Run.printing (findings.map (line how.json request.command))).after
        (ofLines (request.logLines how.verbose)) := by
  rw [← logText_eq]
  rfl

/-- The run of a request, by what is wrong with the request. -/
inductive Ends (how : Presentation) (request : Request) : Run → Prop
  | done (hfine : ∀ c, ¬Fails request c) (hshort : ¬request.Overlong)
      (ts : List Text) (hcount : ts.length = request.resultCount)
      (hunbroken : ∀ t ∈ ts, t.Unbroken) :
      Ends how request
        ⟨.status 0, ofLines ts, ofLines (request.logLines how.verbose)⟩
  | complained (c : Complaint) (hfails : Fails request c) (message : Text)
      (hmessage : c.message? = some message) (hunbroken : message.Unbroken) :
      Ends how request ⟨.status 1, [],
        ofLines (request.logLines how.verbose ++ ["textspan: error: " ++ message])⟩
  | broken (hlong : request.Overlong) :
      Ends how request
        ⟨.fault .overlong, [], ofLines (request.logLines how.verbose)⟩

theorem ends_of_fails (hints : request.HasIntegers)
    (hpresentable : request.Presentable) {c : Complaint} (h : Fails request c) :
    Ends how request (request.run how) := by
  obtain ⟨message, hmessage, hunbroken⟩ := h.tellable hpresentable
  have hresults := (results_eq_error_iff hints).mpr ⟨c, h, rfl⟩
  have hrun : request.run how = ⟨.status 1, [],
      ofLines (request.logLines how.verbose ++ ["textspan: error: " ++ message])⟩ := by
    simp only [run_eq, hresults, failing, hmessage]
    simp [Run.after, ofLines]
  rw [hrun]
  exact .complained c h message hmessage hunbroken

theorem ends_of_results (hints : request.HasIntegers) {findings : List Finding}
    (h : request.results.1 = .ok findings) : Ends how request (request.run how) := by
  obtain ⟨hcount, hwritable, hunwritable⟩ := writable_of_results hints h
  by_cases hlong : request.Overlong
  · obtain ⟨s, rfl, hlimit⟩ := hunwritable hlong
    have hrun : request.run how =
        ⟨.fault .overlong, [], ofLines (request.logLines how.verbose)⟩ := by
      simp only [run_eq, h, List.map_singleton, line_span_of_le _ _ hlimit]
      simp [Run.printing, Run.after]
    rw [hrun]
    exact .broken hlong
  · obtain ⟨ts, hlength, hunbroken, hprinting⟩ :=
      printing_of_writable how.json request.command (hwritable hlong)
    have hrun : request.run how =
        ⟨.status 0, ofLines ts, ofLines (request.logLines how.verbose)⟩ := by
      simp only [run_eq, h, hprinting]
      simp [Run.after]
    have hfine : ∀ c, ¬Fails request c := by
      intro c hc
      rw [(results_eq_error_iff hints).mpr ⟨c, hc, rfl⟩] at h
      simp at h
    rw [hrun]
    exact .done hfine hlong ts (hlength.trans hcount) hunbroken

/-- Every request with presentable values ends in one of the three ways. -/
theorem ends_run (how : Presentation) (hints : request.HasIntegers)
    (hpresentable : request.Presentable) : Ends how request (request.run how) := by
  cases hresults : request.results.1 with
  | error f =>
      obtain ⟨c, hc, -⟩ := (results_eq_error_iff hints).mp hresults
      exact ends_of_fails hints hpresentable hc
  | ok findings => exact ends_of_results hints hresults

theorem not_overlong_of_fails {c : Complaint} (h : Fails request c) :
    ¬request.Overlong := by
  intro hlong
  cases h with
  | negativeStart hm => exact absurd hlong.1 (Int.not_le.mpr hm)
  | negativeLength hm hn => exact absurd hlong.2.1 (Int.not_le.mpr hn)
  | rejected => exact hlong
  | rejectedFirst => exact hlong
  | rejectedSecond => exact hlong
  | impossible => exact hlong

theorem not_overlong_of_command (h : request.command ≠ .format) :
    ¬request.Overlong := by
  intro hlong
  cases request with
  | format start length => exact h rfl
  | parse texts => exact hlong
  | pair op a b => exact hlong

/-- The last line of the error stream, after the lines of the log. -/
theorem getLast?_lines_err (verbose : Bool) {message : Text}
    (h : message.Unbroken) :
    (ofLines (request.logLines verbose ++
      ["textspan: error: " ++ message])).lines.getLast? =
      some ("textspan: error: " ++ message) := by
  rw [lines_ofLines_of_unbroken, List.getLast?_concat]
  intro l hl
  rcases List.mem_append.mp hl with hlog | hlast
  · exact unbroken_of_mem_logLines hlog
  · rw [List.mem_singleton.mp hlast]
    exact within_append.mpr ⟨by decide, h⟩

end Request

/-- How the span tool ends on any command line that makes a request.  It prints
one line for each result and ends well; or it prints nothing and tells in one
line what is wrong first, which can always be told; or it prints nothing and
ends by a fault, where a start and a length are in order but their sum has no
numeral.  Which of the three happens depends on the request alone, and the last
one never happens to requests that read their spans. -/
theorem spanTool_ending {args : List Text} {how : Presentation} {request : Request}
    (hread : Arguments.read args = .ok (how, request))
    (hints : request.HasIntegers) :
    ((spanTool args).ending = .status 0 ∨ (spanTool args).ending = .status 1 ∨
      (spanTool args).ending = .fault .overlong) ∧
    ((spanTool args).ending = .status 0 →
      (spanTool args).out = ofLines (spanTool args).out.lines ∧
        (spanTool args).out.lines.length = request.resultCount) ∧
    ((spanTool args).ending = .status 1 ↔ ∃ c, request.Fails c) ∧
    (∀ c, request.Fails c → (spanTool args).out = [] ∧
      ∃ message, c.message? = some message ∧ message.Unbroken ∧
        (spanTool args).err.lines.getLast? = some ("textspan: error: " ++ message)) ∧
    ((spanTool args).ending = .fault .overlong ↔ request.Overlong) ∧
    (request.Overlong → (spanTool args).out = []) ∧
    (request.command ≠ .format → ∀ f, (spanTool args).ending ≠ .fault f) := by
  have hrun : spanTool args = request.run how := by rw [spanTool, hread]
  have hends := Request.ends_run how hints (Arguments.presentable_of_read hread)
  rw [hrun]
  generalize request.run how = run at hends
  cases hends with
  | done hfine hshort ts hcount hunbroken =>
      have hlines : (ofLines ts).lines = ts := lines_ofLines_of_unbroken hunbroken
      refine ⟨Or.inl rfl, fun _ => ?_, ?_, ?_, ?_, ?_, ?_⟩
      · exact ⟨by rw [hlines], by rw [hlines, hcount]⟩
      · simpa using hfine
      · exact fun c hc => absurd hc (hfine c)
      · simpa using hshort
      · exact fun hlong => absurd hlong hshort
      · simp
  | complained c hfails message hmessage hunbroken =>
      have hshort := Request.not_overlong_of_fails hfails
      refine ⟨Or.inr (Or.inl rfl), ?_, ?_, ?_, ?_, ?_, ?_⟩
      · simp
      · simpa using ⟨c, hfails⟩
      · intro c' hfails'
        obtain rfl := hfails.unique hints hfails'
        exact ⟨rfl, message, hmessage, hunbroken,
          Request.getLast?_lines_err how.verbose hunbroken⟩
      · simpa using hshort
      · exact fun hlong => absurd hlong hshort
      · simp
  | broken hlong =>
      have hfine : ¬∃ c, request.Fails c :=
        fun ⟨c, hc⟩ => Request.not_overlong_of_fails hc hlong
      refine ⟨Or.inr (Or.inr rfl), ?_, ?_, ?_, ?_, fun _ => rfl, ?_⟩
      · simp
      · simpa using hfine
      · exact fun c hc => absurd ⟨c, hc⟩ hfine
      · simpa using hlong
      · exact fun hcommand => absurd hlong (Request.not_overlong_of_command hcommand)

/-- A span that can be written is printed on one line. -/
theorem spanTool_ending_format :
    Arguments.read ["format", "4", "5"] =
        .ok (⟨false, false⟩, .format (.int 4) (.int 5)) ∧
      (Request.format (.int 4) (.int 5)).HasIntegers ∧
      (spanTool ["format", "4", "5"]).ending = .status 0 ∧
      (spanTool ["format", "4", "5"]).out.lines.length = 1 := by
  have hm : Numeral.typedInt? "4" = some 4 := by rfl
  have hn : Numeral.typedInt? "5" = some 5 := by rfl
  have hread := Arguments.read_format (by decide) (by decide) hm hn
  have hints : (Request.format (.int 4) (.int 5)).HasIntegers :=
    ⟨⟨4, rfl⟩, 5, rfl⟩
  obtain ⟨hthree, hdone, hcomplained, -, hbroken, -⟩ := spanTool_ending hread hints
  have hfine : (spanTool ["format", "4", "5"]).ending ≠ .status 1 := by
    intro hone
    obtain ⟨c, hc⟩ := hcomplained.mp hone
    cases hc with
    | negativeStart h => exact absurd h (by decide)
    | negativeLength _ h => exact absurd h (by decide)
  have hshort : (spanTool ["format", "4", "5"]).ending ≠ .fault .overlong := by
    intro hfault
    obtain ⟨-, -, hlimit⟩ := hbroken.mp hfault
    have hten : 10 ^ 1 ≤ Numeral.limit := Numeral.pow_le_limit (by decide)
    omega
  have hstatus := (hthree.resolve_right fun h => h.elim hfine hshort)
  exact ⟨hread, hints, hstatus, (hdone hstatus).2⟩

end SourceSpans
