import SourceSpans.Proofs.Tool.Expression

/-!
# How results are presented

The flags of the span tool do not reach what is computed.  Two runs of one
request end alike, whatever their flags are.  The log only stands in front of
what a silent run says, and the object that a result is in JSON shows the line of
the result in plain text, or the numbers of that line.
-/

namespace SourceSpans

open Json Success Text

/-! ## One result in two presentations -/

namespace Command

/-- What the results of a command are. -/
def kind : Command → AnswerKind
  | .pair op => op.kind
  | _ => .span

theorem eq_overlaps_of_kind {command : Command} (h : command.kind = .truth) :
    command = .pair .overlaps := by
  cases command with
  | format => cases h
  | parse => cases h
  | pair op =>
      cases op with
      | overlaps => rfl
      | _ => cases h

end Command

/-- A span as an object on one line, with a text for its form. -/
def spanObject (s : Span) (form : Text) : Text :=
  "\x7b\"end\": " ++ Numeral.digits s.stop ++ ", \"length\": " ++
    Numeral.digits s.length ++ ", \"start\": " ++ Numeral.digits s.start ++
    ", \"text\": \"" ++ form ++ "\"\x7d"

/-- The lines of one result of a command, in plain text and in JSON. -/
inductive SameResult : Command → Text → Text → Prop
  /-- A truth value is the same word in both. -/
  | truth (b : Bool) :
      SameResult (.pair .overlaps) (if b then "true" else "false" : Text)
        (if b then "true" else "false" : Text)
  /-- The text of the object is the plain line, and the numbers of the object are
  those of the span that the line denotes. -/
  | form {command : Command} {s : Span} {plain : Text} (hparse : command ≠ .parse)
      (hoverlaps : command ≠ .pair .overlaps) (hplain : Bracketed.read plain = .ok s) :
      SameResult command plain (spanObject s plain)
  /-- The numbers of the object are those of the plain line. -/
  | numbers {s : Span} {text : Text} (htext : Bracketed.read text = .ok s) :
      SameResult .parse
        ("start=" ++ Numeral.digits s.start ++ " length=" ++ Numeral.digits s.length ++
          " end=" ++ Numeral.digits s.stop)
        (spanObject s text)

theorem Json.ofSpan?_eq_spanObject {s : Span} {t : Text}
    (h : Bracketed.ofSpan? s = some t) : Json.ofSpan? s = some (spanObject s t) := by
  obtain ⟨hlimit, ht⟩ := Bracketed.ofSpan?_eq_some_iff.mp h
  have hend : ("\x7b\"end\": " : Text) = "\x7b" ++ ofText "end" ++ ": " := by decide
  have hlength : (", \"length\": " : Text) = ", " ++ ofText "length" ++ ": " := by decide
  have hstart : (", \"start\": " : Text) = ", " ++ ofText "start" ++ ": " := by decide
  have htext : (", \"text\": \"" : Text) = ", " ++ ofText "text" ++ ": " ++ "\"" := by
    decide
  have hclose : ("\"\x7d" : Text) = "\"" ++ "\x7d" := by decide
  rw [ofSpan?_of_lt hlimit, ← ht, ofText_of_ofSpan? h, spanObject, hend, hlength, hstart,
    htext, hclose]
  simp only [object, member, join, List.append_assoc]

namespace Log

theorem isPrefix_line_rejected (t : Text) (why : Bracketed.Rejection) :
    "DEBUG textspan.spans: rejected span text " <+: (rejected t why).line := by
  have hhead : ("DEBUG textspan.spans: rejected span text " : Text) =
      "DEBUG " ++ Speaker.reader.name ++ ": " ++ "rejected span text " := by decide
  obtain ⟨detail, hdetail⟩ :
      ∃ detail, (rejected t why).message = "rejected span text " ++ detail := by
    cases why with
    | noMatch => exact ⟨_, List.append_assoc ..⟩
    | unreadable => exact ⟨_, List.append_assoc ..⟩
    | reversed => exact ⟨_, List.append_assoc ..⟩
  refine ⟨detail, ?_⟩
  rw [hhead, Entry.line, hdetail]
  exact List.append_assoc ..

end Log

namespace Request

variable {command : Command} {finding : Finding}

/-- The two lines of a result whose numbers have numerals show the same. -/
theorem sameResult_of_line (hkind : finding.kind = command.kind)
    (hwritable : finding.Writable) {plain json : Text}
    (hplain : line false command finding = .ok plain)
    (hjson : line true command finding = .ok json) : SameResult command plain json := by
  cases finding with
  | truth b =>
      obtain rfl := Command.eq_overlaps_of_kind hkind.symm
      obtain rfl := Except.ok.inj hplain
      rw [line, if_pos rfl, Finding.value, Value.json_bool] at hjson
      obtain rfl := Except.ok.inj hjson
      exact .truth b
  | span s =>
      have hform := Bracketed.ofSpan?_of_lt hwritable
      have hread := Bracketed.read_of_ofSpan? hform
      rw [line, if_pos rfl, Finding.value,
        Value.json_span_of_ofSpan? (Json.ofSpan?_eq_spanObject hform)] at hjson
      obtain rfl := Except.ok.inj hjson
      by_cases hparse : command = .parse
      · subst hparse
        simp only [line, plainLine?, numbersText?_of_lt hwritable] at hplain
        obtain rfl := Except.ok.inj hplain
        exact .numbers hread
      · have hoverlaps : command ≠ .pair .overlaps := by
          rintro rfl
          cases hkind
        simp only [line, plainLine?, if_neg hparse, hform] at hplain
        obtain rfl := Except.ok.inj hplain
        exact .form hparse hoverlaps hread

/-- The two presentations of the same results stop at the same one, if they stop,
and show the same until then. -/
theorem exists_printing {findings : List Finding}
    (h : ∀ finding ∈ findings, finding.kind = command.kind) :
    ∃ (ending : Ending) (lines : Bool → List Text),
      List.Forall₂ (SameResult command) (lines false) (lines true) ∧
      (∀ json, ∀ l ∈ lines json, l.Unbroken) ∧
      ∀ json, Run.printing (findings.map (line json command)) =
        ⟨ending, ofLines (lines json), []⟩ := by
  induction findings with
  | nil => exact ⟨.status 0, fun _ => [], .nil, by simp, fun _ => rfl⟩
  | cons finding rest ih =>
      obtain ⟨hkind, hrest⟩ := List.forall_mem_cons.mp h
      by_cases hwritable : finding.Writable
      · choose t ht hplain using fun json => line_of_writable json command hwritable
        obtain ⟨ending, lines, hsame, hunbroken, hprinting⟩ := ih hrest
        have hhead := sameResult_of_line hkind hwritable (ht false) (ht true)
        refine ⟨ending, fun json => t json :: lines json, .cons hhead hsame, ?_, ?_⟩
        · intro json
          exact List.forall_mem_cons.mpr ⟨(hplain json).unbroken, hunbroken json⟩
        · intro json
          rw [List.map_cons, ht, Run.printing, hprinting]
          rfl
      · cases finding with
        | truth b => exact absurd trivial hwritable
        | span s =>
            have hlimit : Numeral.limit ≤ s.stop := Nat.le_of_not_lt hwritable
            refine ⟨.fault .overlong, fun _ => [], .nil, by simp, fun json => ?_⟩
            rw [List.map_cons, line_span_of_le json command hlimit]
            rfl

/-! ## Two runs of one request -/

variable {request : Request}

/-- The results of a request are of the kind that its command asks for. -/
theorem kind_of_results {findings : List Finding} (h : request.results.1 = .ok findings) :
    ∀ finding ∈ findings, finding.kind = request.command.kind := by
  cases request with
  | format start length =>
      obtain ⟨s, -, rfl⟩ := map_eq_ok_iff.mp (results_format ▸ h)
      simp [Finding.kind, Command.kind, command]
  | parse texts =>
      obtain ⟨ss, -, rfl⟩ := map_eq_ok_iff.mp (results_parse ▸ h)
      simp [Finding.kind, Command.kind, command]
  | pair op a b =>
      obtain ⟨finding, hfinding, rfl⟩ := map_eq_ok_iff.mp (results_pair ▸ h)
      obtain ⟨s, -, t, -, hanswer⟩ := answer_eq_ok_iff.mp hfinding
      intro finding' hmem
      obtain rfl := List.mem_singleton.mp hmem
      exact Finding.kind_of_answer hanswer

theorem failing_out (f : Fault) : (failing f).out = [] := by
  unfold failing
  split
  next => split <;> rfl
  next => rfl

/-- A run is the silent run after the lines of the log. -/
theorem run_eq_after (how : Presentation) (request : Request) :
    request.run how =
      (request.run ⟨how.json, false⟩).after (ofLines (request.logLines how.verbose)) := by
  rw [run_eq, run_eq]
  simp [logLines, ofLines, Run.after]

theorem exists_run (request : Request) :
    ∃ (ending : Ending) (err : Text) (lines : Bool → List Text),
      List.Forall₂ (SameResult request.command) (lines false) (lines true) ∧
      (∀ json, ∀ l ∈ lines json, l.Unbroken) ∧
      ∀ json, request.run ⟨json, false⟩ = ⟨ending, ofLines (lines json), err⟩ := by
  simp only [run_eq]
  cases hresults : request.results.1 with
  | error f =>
      refine ⟨(failing f).ending, (failing f).err, fun _ => [], .nil, by simp, ?_⟩
      intro json
      have hout : ofLines [] = (failing f).out := (failing_out f).symm
      rw [hout]
      rfl
  | ok findings =>
      obtain ⟨ending, lines, hsame, hunbroken, hprinting⟩ :=
        exists_printing (kind_of_results hresults)
      refine ⟨ending, [], lines, hsame, hunbroken, fun json => ?_⟩
      simp only [hprinting]
      rfl

/-- The lines of the log when it is shown: the command, and a record of the text
that the request fails on, if there is one. -/
theorem exists_records (request : Request) :
    ∃ records : List Text, records.length ≤ 1 ∧
      (∀ r ∈ records, r.Unbroken ∧ "DEBUG textspan.spans: rejected span text " <+: r) ∧
      (records ≠ [] ↔
        ∃ t, request.results.1 = .error (.complaint (.malformed (.text t)))) ∧
      request.logLines true =
        ("DEBUG textspan.cli: running " ++ request.command.name) :: records := by
  have hrunning : (Log.running request.command.name).line =
      "DEBUG textspan.cli: running " ++ request.command.name := by
    rw [Log.Entry.line, Log.running, ← List.append_assoc]
    rfl
  have hlogged := logged_results request
  rw [logLines, if_pos rfl, List.map_cons, hrunning]
  generalize request.results = outcome at hlogged
  cases hlogged with
  | @rejected t why =>
      refine ⟨[(Log.rejected t why).line], Nat.le_refl 1, ?_, ?_, rfl⟩
      · simpa using ⟨Log.unbroken_rejected t why, Log.isPrefix_line_rejected t why⟩
      · simp
  | silent hsilent =>
      refine ⟨[], Nat.zero_le 1, by simp, ?_, rfl⟩
      simpa using hsilent

end Request

/-- Two runs of the span tool that make the same request end alike.  What they
print on either stream does not depend on the flag of the other: the flag for the
log adds to the error stream the command and, exactly when the request fails on a
text that is no span, one record of that text, in front of all that is said
without it; the flag for JSON shows the same results, one on each line. -/
theorem spanTool_presentation {args args' : List Text} {how how' : Presentation}
    {request : Request} (hread : Arguments.read args = .ok (how, request))
    (hread' : Arguments.read args' = .ok (how', request)) :
    (spanTool args).ending = (spanTool args').ending ∧
    (how.json = how'.json → (spanTool args).out = (spanTool args').out) ∧
    (how.verbose = how'.verbose → (spanTool args).err = (spanTool args').err) ∧
    (how.verbose = true → how'.verbose = false →
      ∃ records : List Text, records.length ≤ 1 ∧
        (∀ r ∈ records,
          r.Unbroken ∧ "DEBUG textspan.spans: rejected span text " <+: r) ∧
        (records ≠ [] ↔
          ∃ t, request.results.1 = .error (.complaint (.malformed (.text t)))) ∧
        (spanTool args).err =
          ofLines (("DEBUG textspan.cli: running " ++ request.command.name) :: records) ++
            (spanTool args').err) ∧
    (how.json = false → how'.json = true →
      List.Forall₂ (SameResult request.command) (spanTool args).out.lines
        (spanTool args').out.lines) := by
  have hrun : spanTool args = request.run how := by rw [spanTool, hread]
  have hrun' : spanTool args' = request.run how' := by rw [spanTool, hread']
  obtain ⟨ending, err, lines, hsame, hunbroken, hsilent⟩ := request.exists_run
  rw [hrun, hrun', request.run_eq_after how, request.run_eq_after how', hsilent,
    hsilent]
  refine ⟨rfl, ?_, ?_, ?_, ?_⟩
  · intro hjson
    rw [hjson]
    rfl
  · intro hverbose
    rw [hverbose]
    rfl
  · intro hverbose hquiet
    obtain ⟨records, hcount, hrecords, hpresent, hlog⟩ := request.exists_records
    refine ⟨records, hcount, hrecords, hpresent, ?_⟩
    rw [hverbose, hquiet, hlog]
    rfl
  · intro hfalse htrue
    simp only [Run.after, hfalse, htrue, lines_ofLines_of_unbroken (hunbroken _)]
    exact hsame

/-- The gap to a text that is no span: the flag for the log adds two lines, of
which the second is a record, and neither flag changes how the run ends. -/
theorem spanTool_presentation_rejected :
    Arguments.read ["--json", "-v", "gap", "[0:1]", "x"] =
        .ok (⟨true, true⟩, .pair .gap (.text "[0:1]") (.text "x")) ∧
      Arguments.read ["gap", "[0:1]", "x"] =
        .ok (⟨false, false⟩, .pair .gap (.text "[0:1]") (.text "x")) ∧
      (spanTool ["--json", "-v", "gap", "[0:1]", "x"]).ending =
        (spanTool ["gap", "[0:1]", "x"]).ending ∧
      ∃ r, "DEBUG textspan.spans: rejected span text " <+: r ∧
        (spanTool ["--json", "-v", "gap", "[0:1]", "x"]).err =
          ofLines ["DEBUG textspan.cli: running gap", r] ++
            (spanTool ["gap", "[0:1]", "x"]).err := by
  have hquiet : Arguments.read ["gap", "[0:1]", "x"] =
      .ok (⟨false, false⟩, .pair .gap (.text "[0:1]") (.text "x")) :=
    @Arguments.read_pair .gap "[0:1]" "x" (by decide) (by decide)
  have hverbose : Arguments.read ["--json", "-v", "gap", "[0:1]", "x"] =
      .ok (⟨true, true⟩, .pair .gap (.text "[0:1]") (.text "x")) :=
    Arguments.read_flags (by decide) hquiet ⟨true, true⟩
  have hrejected : (Request.pair .gap (.text "[0:1]") (.text "x")).results.1 =
      .error (.complaint (.malformed (.text "x"))) := by rfl
  obtain ⟨hending, -, -, hlog, -⟩ := spanTool_presentation hverbose hquiet
  obtain ⟨records, hcount, hrecords, hpresent, herr⟩ := hlog rfl rfl
  have hne : records ≠ [] := hpresent.mpr ⟨_, hrejected⟩
  obtain ⟨r, rfl⟩ : ∃ r, records = [r] :=
    List.length_eq_one_iff.mp (Nat.le_antisymm hcount (List.length_pos_iff.mpr hne))
  exact ⟨hverbose, hquiet, hending, r, (hrecords r (by simp)).2, herr⟩

/-- A second value that was left out by means of two dashes is no text, and the
request fails on it without a record. -/
theorem spanTool_silent_rejection :
    Arguments.read ["-v", "gap", "--", "[0:1]", "--"] =
        .ok (⟨false, true⟩, .pair .gap (.text "[0:1]") (.list [])) ∧
      Arguments.read ["gap", "--", "[0:1]", "--"] =
        .ok (⟨false, false⟩, .pair .gap (.text "[0:1]") (.list [])) ∧
      (Request.pair .gap (.text "[0:1]") (.list [])).results.1 =
        .error (.complaint (.malformed (.list []))) ∧
      (spanTool ["-v", "gap", "--", "[0:1]", "--"]).ending = .status 1 ∧
      ¬∃ r, (spanTool ["-v", "gap", "--", "[0:1]", "--"]).err =
        ofLines ["DEBUG textspan.cli: running gap", r] ++
          (spanTool ["gap", "--", "[0:1]", "--"]).err := by
  have hquiet : Arguments.read ["gap", "--", "[0:1]", "--"] =
      .ok (⟨false, false⟩, .pair .gap (.text "[0:1]") (.list [])) :=
    Arguments.read_pair_dashes .gap "[0:1]"
  have hverbose : Arguments.read ["-v", "gap", "--", "[0:1]", "--"] =
      .ok (⟨false, true⟩, .pair .gap (.text "[0:1]") (.list [])) :=
    Arguments.read_flags (by decide) hquiet ⟨false, true⟩
  have hresults : (Request.pair .gap (.text "[0:1]") (.list [])).results =
      (.error (.complaint (.malformed (.list []))), []) := by rfl
  have hlog : (Request.pair .gap (.text "[0:1]") (.list [])).logLines true =
      [("DEBUG textspan.cli: running gap" : Text)] := by
    rw [Request.logLines, if_pos rfl, hresults]
    rfl
  have hending : (spanTool ["-v", "gap", "--", "[0:1]", "--"]).ending = .status 1 := by
    rw [spanTool, hverbose]
    rfl
  refine ⟨hverbose, hquiet, by rw [hresults], hending, ?_⟩
  rintro ⟨r, herr⟩
  rw [spanTool, hverbose, spanTool, hquiet] at herr
  dsimp only at herr
  rw [Request.run_eq_after ⟨false, true⟩, hlog] at herr
  have hlength := congrArg List.length herr
  simp only [Run.after, ofLines, List.flatMap_cons, List.flatMap_nil, withNewline,
    List.length_append, List.length_cons, List.length_nil] at hlength
  omega

end SourceSpans
