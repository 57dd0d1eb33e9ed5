import SourceSpans.Proofs.Numeral.Typed
import SourceSpans.Proofs.Random.Walk
import SourceSpans.Proofs.Summary.Listing
import SourceSpans.Proofs.Tool.Printing
import SourceSpans.Proofs.Value.Literal
import SourceSpans.Tool.Summaries

/-!
# What the listing tool prints

The spans of a walk grow by at most one longest step each, so a walk that is not far
too long can be listed to the end.  What is printed then is a file of summaries that
the renewal tool leaves as it is.  Two walks of one seed take the same steps as long as
both go on, so the longer listing begins with the shorter one.
-/

namespace SourceSpans

open CommandLine Text

namespace CommandLine.Grammar

variable {σ : Type} {g : Grammar σ}

/-- An option that takes a value is carried out with the one attached to it. -/
theorem takeOption_attached {name label value : Text}
    {read : Text → Except Text Value} {set : Value → σ → σ} {v : Value}
    (hvalue : value ≠ [0x2D, 0x2D]) (hread : read value = .ok v)
    (ahead : List (Text × Mark σ)) (state : σ) :
    g.takeOption name ⟨[label], .value (single read set)⟩ (some value) ahead
      state = .ok (set v state, 0) := by
  have hbundle : g.bundle name ⟨[label], .value (single read set)⟩ (some value) =
      .ok ⟨[], ⟨[label], .value (single read set)⟩, some value⟩ := by
    cases value with
    | nil => rfl
    | cons c rest => rfl
  have herase : Arity.one.values [value] = [value] :=
    List.erase_of_not_mem (by simpa using hvalue.symm)
  have hperform : g.perform ⟨[label], .value (single read set)⟩ [value] state =
      .ok (set v state) := by
    dsimp only [perform]
    rw [herase, single, hread]
    rfl
  rw [takeOption, hbundle]
  dsimp only [bind, Except.bind, valuesFor, performAll]
  rw [hperform]
  rfl

end CommandLine.Grammar

namespace ListingTool

/-! ## Command lines -/

def seedOption : Opt Setting :=
  ⟨["--seed"],
    .value (single readInteger fun v state => { state with seed := v })⟩

def countOption : Opt Setting :=
  ⟨["--count"],
    .value (single readInteger fun v state => { state with count := v })⟩

/-- Whatever stands behind the equality signs is attached to the options. -/
theorem markAll_assigned (first second : Text) :
    grammar.markAll ["--seed=" ++ first, "--count=" ++ second] =
      .ok [("--seed=" ++ first, .option "--seed" seedOption (some first)),
        ("--count=" ++ second, .option "--count" countOption (some second))] :=
  rfl

theorem typed_ne_dashes {t : Text} {n : Int}
    (h : Numeral.typedInt? t = some n) : t ≠ [0x2D, 0x2D] := by
  rintro rfl
  have hdashes : Numeral.typedInt? [0x2D, 0x2D] = none := by decide
  cases hdashes.symm.trans h

theorem readInteger_typed {t : Text} {n : Int}
    (h : Numeral.typedInt? t = some n) : readInteger t = .ok (.int n) := by
  rw [readInteger, h]

/-- Any two typed integers can be given as the seed and the number of spans. -/
theorem readFully_typed {first second : Text} {seed count : Int}
    (initial : Setting) (hseed : Numeral.typedInt? first = some seed)
    (hcount : Numeral.typedInt? second = some count) :
    grammar.readFully initial ["--seed=" ++ first, "--count=" ++ second] =
      .ok ⟨.int seed, .int count⟩ := by
  have hread : grammar.read initial ["--seed=" ++ first, "--count=" ++ second] =
      .ok (⟨.int seed, .int count⟩, []) := by
    have hfirst := readInteger_typed hseed
    have hsecond := readInteger_typed hcount
    simp only [Grammar.read, markAll_assigned, bind, Except.bind,
      Grammar.useAll, seedOption, countOption, List.drop_zero,
      Grammar.takeOption_attached (typed_ne_dashes hseed) hfirst,
      Grammar.takeOption_attached (typed_ne_dashes hcount) hsecond]
    rfl
  rw [Grammar.readFully, hread]
  rfl

/-- Every seed and every number of spans that can be written can be asked for. -/
theorem exists_args {seed count : Int} (initial : Setting)
    (hseed : seed.natAbs < Numeral.limit)
    (hcount : count.natAbs < Numeral.limit) :
    ∃ args, grammar.readFully initial args = .ok ⟨.int seed, .int count⟩ := by
  obtain ⟨first, hfirst⟩ := Numeral.exists_ofInt?_iff.mpr hseed
  obtain ⟨second, hsecond⟩ := Numeral.exists_ofInt?_iff.mpr hcount
  exact ⟨_, readFully_typed initial (Numeral.typedInt?_of_ofInt? hfirst)
    (Numeral.typedInt?_of_ofInt? hsecond)⟩

/-! ## Runs -/

open Walk

variable {seed count : Int}

theorem list_of_spans {ss : List Span}
    (h : spans seed count defaultReach = .ok ss) :
    list ⟨.int seed, .int count⟩ = Run.printing (Summary.listing ss) := by
  simp only [list, Value.int?, h]

end ListingTool

/-- What the listing tool prints for the seed and the number of spans that a
command line gives.  For at least two spans it prints one line less than spans, in
which every line names first the span that the line before names second, and a
file that holds what was printed is renewed to itself.  For fewer spans it prints
nothing. -/
theorem listingTool_renewed (args : List Text) (seed count : Int)
    (hargs : ListingTool.grammar.readFully ⟨.int 1, .int 100⟩ args =
      .ok ⟨.int seed, .int count⟩)
    (hends : Walk.spans seed count Walk.defaultReach ≠ .error .exhausted) :
    (2 ≤ count → 10000 + 20 * count < (Numeral.limit : Int) →
      ∃ lines : List Text,
        listingTool args = ⟨.status 0, ofLines lines, []⟩ ∧
          (ofLines lines).lines = lines ∧ (lines.length : Int) = count - 1 ∧
          (lines.IsChain fun line next =>
            ∃ name, line.words[1]? = some name ∧ next.words[0]? = some name) ∧
          ∀ path, renewalTool path (Utf8.encode (ofLines lines)) =
            ⟨⟨.status 0, path.withNewline, []⟩, Utf8.encode (ofLines lines)⟩) ∧
      (count ≤ 1 → listingTool args = ⟨.status 0, [], []⟩) := by
  have hreach : 0 ≤ Walk.defaultReach := by decide
  obtain ⟨ss, hspans, hlength, hwalk⟩ :=
    (Walk.gives_spans seed (.inr hreach)).exists_ok hends
  have hrun : listingTool args = Run.printing (Summary.listing ss) := by
    rw [listingTool, hargs]
    exact ListingTool.list_of_spans hspans
  constructor
  · intro hcount hlimit
    have hbound : ∀ s ∈ ss, s.stop < Numeral.limit := by
      intro s hs
      obtain ⟨i, hi, rfl⟩ := List.mem_iff_getElem.mp hs
      have hstop := hwalk.stop_le (List.getElem?_eq_getElem hi)
      dsimp only [Walk.longestStep, Walk.defaultReach] at hstop
      omega
    obtain ⟨lines, hlisting, hlists⟩ := Summary.exists_lists_of_lt hbound
    have hlines : lines.length = ss.length - 1 := by
      rw [← List.Forall₂.length_eq hlists, Summary.length_neighbours]
    have hne : lines ≠ [] := by
      rintro rfl
      simp only [List.length_nil] at hlines
      omega
    refine ⟨lines, ?_, hlists.lines_ofLines, by omega, hlists.isChain, ?_⟩
    · rw [hrun, hlisting, Run.printing_ok]
    · intro path
      exact renewalTool_of_renewBytes (hlists.renewBytes hne)
  · intro hcount
    have hfew : Summary.neighbours ss = [] := by
      apply List.eq_nil_of_length_eq_zero
      rw [Summary.length_neighbours]
      omega
    rw [hrun, Summary.listing, hfew]
    rfl

/-- Three spans are printed on two lines, which make a file that stays as it
is. -/
theorem listingTool_renewed_three_spans :
    ∃ lines : List Text,
      listingTool ["--seed=" ++ ofString "2005", "--count=" ++ ofString "3"] =
          ⟨.status 0, ofLines lines, []⟩ ∧
        (lines.length : Int) = 3 - 1 ∧
        renewalTool "pairs" (Utf8.encode (ofLines lines)) =
          ⟨⟨.status 0, withNewline "pairs", []⟩, Utf8.encode (ofLines lines)⟩ := by
  have hargs := ListingTool.readFully_typed ⟨.int 1, .int 100⟩
    (show Numeral.typedInt? "2005" = some 2005 by rfl)
    (show Numeral.typedInt? "3" = some 3 by rfl)
  have hends : Walk.spans 2005 3 Walk.defaultReach ≠ .error .exhausted := by
    rw [Walk.defaultReach, Walk.spans_2005]
    simp
  have hlimit : 10 ^ 5 ≤ Numeral.limit := Numeral.pow_le_limit (by decide)
  obtain ⟨lines, hrun, -, hlength, -, hrenewed⟩ :=
    (listingTool_renewed _ 2005 3 hargs hends).1 (by decide) (by omega)
  exact ⟨lines, hrun, hlength, hrenewed "pairs"⟩

/-! ## Shorter walks -/

open Text

/-! ### Walks -/

namespace Walk

variable {reach : Int}

/-- A walk takes a step and goes on from there. -/
theorem steps_succ_eq_ok_iff {count : Nat} {before : Option Span} {source : Twister}
    {ss : List Span} :
    steps reach (count + 1) before source = .ok ss ↔
      ∃ s after rest, step reach before source = .ok (s, after) ∧
        steps reach count (some s) after = .ok rest ∧ s :: rest = ss := by
  rw [steps_succ, Success.bind_eq_ok_iff]
  simp only [Success.map_eq_ok_iff, Prod.exists]
  constructor
  · rintro ⟨s, after, hstep, rest, hrest, hss⟩
    exact ⟨s, after, rest, hstep, hrest, hss⟩
  · rintro ⟨s, after, rest, hstep, hrest, hss⟩
    exact ⟨s, after, hstep, rest, hrest, hss⟩

/-- Fewer steps from the same place with the same source lead along the same
spans.  The induction is on the fewer steps; both walks take the first one alike
and go on from the place and the source that it leaves. -/
theorem exists_steps_of_le {few many : Nat} {before : Option Span} {source : Twister}
    {ss : List Span} (hle : few ≤ many) (h : steps reach many before source = .ok ss) :
    ∃ first, steps reach few before source = .ok first ∧ first <+: ss ∧
      first.length = few := by
  induction few generalizing many before source ss with
  | zero => exact ⟨[], rfl, List.nil_prefix, rfl⟩
  | succ few ih =>
      obtain ⟨more, rfl⟩ : ∃ more, many = more + 1 := ⟨many - 1, by omega⟩
      obtain ⟨s, after, rest, hstep, hrest, rfl⟩ := steps_succ_eq_ok_iff.mp h
      obtain ⟨first, hfirst, hbegins, hlength⟩ := ih (Nat.le_of_succ_le_succ hle) hrest
      have hsteps : steps reach (few + 1) before source = .ok (s :: first) :=
        steps_succ_eq_ok_iff.mpr ⟨s, after, first, hstep, hfirst, rfl⟩
      have hlonger : s :: first <+: s :: rest := (List.prefix_cons_inj s).mpr hbegins
      exact ⟨s :: first, hsteps, hlonger, congrArg (· + 1) hlength⟩

/-- The longer walk of a seed begins with the shorter one. -/
theorem exists_spans_of_le {seed few many : Int} {ss : List Span} (hle : few ≤ many)
    (h : spans seed many reach = .ok ss) :
    ∃ first, spans seed few reach = .ok first ∧ first <+: ss ∧
      (first.length : Int) = max few 0 := by
  obtain ⟨first, hfirst, hbegins, hlength⟩ :=
    exists_steps_of_le (Int.toNat_le_toNat hle) h
  exact ⟨first, hfirst, hbegins, by omega⟩

end Walk

/-! ### Listings -/

theorem Summary.neighbours_of_isPrefix {first ss : List Span} (h : first <+: ss) :
    neighbours first <+: neighbours ss := by
  obtain ⟨rest, rfl⟩ := h
  fun_induction neighbours first with
  | case1 => exact List.nil_prefix
  | case2 a => exact List.nil_prefix
  | case3 a b tail ih => exact (List.prefix_cons_inj (a, b)).mpr ih

theorem Summary.listing_of_isPrefix {first ss : List Span} (h : first <+: ss) :
    listing first <+: listing ss := (neighbours_of_isPrefix h).map pairLine

/-! ### Runs -/

namespace ListingTool

variable {seed count : Int} {ss : List Span}

theorem exists_spans_of_ending (h : (list ⟨.int seed, .int count⟩).ending = .status 0) :
    ∃ ss, Walk.spans seed count Walk.defaultReach = .ok ss := by
  cases hspans : Walk.spans seed count Walk.defaultReach with
  | ok ss => exact ⟨ss, rfl⟩
  | error f => simp [list, Value.int?, hspans] at h

theorem ending_list_of_lt (h : Walk.spans seed count Walk.defaultReach = .ok ss)
    (hstops : ∀ s ∈ ss, s.stop < Numeral.limit) :
    (list ⟨.int seed, .int count⟩).ending = .status 0 := by
  obtain ⟨lines, hlisting, -⟩ := Summary.exists_lists_of_lt hstops
  rw [list_of_spans h, hlisting, Run.printing_ok]

end ListingTool

/-- The longer of two walks of a seed with the same reach begins with the shorter
one, which has as many spans as were asked for.  So when the listing tool lists the
longer walk to the end, it lists the shorter one to the end as well, and what it
prints for the longer one begins with what it prints for the shorter one. -/
theorem listingTool_shorter (seed few many : Int) (hle : few ≤ many) :
    (∀ (reach : Int) (ss : List Span), Walk.spans seed many reach = .ok ss →
      ∃ first, Walk.spans seed few reach = .ok first ∧ first <+: ss ∧
        (first.length : Int) = max few 0) ∧
      ∀ shorter longer : List Text,
        ListingTool.grammar.readFully ⟨.int 1, .int 100⟩ shorter =
          .ok ⟨.int seed, .int few⟩ →
        ListingTool.grammar.readFully ⟨.int 1, .int 100⟩ longer =
          .ok ⟨.int seed, .int many⟩ →
        (listingTool longer).ending = .status 0 →
          (listingTool shorter).ending = .status 0 ∧
            (listingTool shorter).out <+: (listingTool longer).out := by
  constructor
  · intro reach ss hspans
    exact Walk.exists_spans_of_le hle hspans
  · intro shorter longer hshorter hlonger hends
    simp only [listingTool, hshorter, hlonger] at hends ⊢
    obtain ⟨ss, hspans⟩ := ListingTool.exists_spans_of_ending hends
    obtain ⟨first, hfirst, hbegins, -⟩ := Walk.exists_spans_of_le hle hspans
    rw [ListingTool.list_of_spans hspans] at hends ⊢
    rw [ListingTool.list_of_spans hfirst]
    exact Run.printing_of_isPrefix (Summary.listing_of_isPrefix hbegins) hends

/-- Two spans are the first two of three, and their only line is the first of
two. -/
theorem listingTool_shorter_two_of_three :
    Walk.spans 2005 2 10000 = .ok [⟨1251, 7973⟩, ⟨6561, 14⟩] ∧
      (listingTool ["--seed=" ++ ofString "2005", "--count=" ++ ofString "3"]).ending =
        .status 0 ∧
      (listingTool ["--seed=" ++ ofString "2005", "--count=" ++ ofString "2"]).ending =
        .status 0 ∧
      (listingTool ["--seed=" ++ ofString "2005", "--count=" ++ ofString "2"]).out <+:
        (listingTool ["--seed=" ++ ofString "2005", "--count=" ++ ofString "3"]).out := by
  have hseed : Numeral.typedInt? "2005" = some 2005 := by rfl
  have hshorter := ListingTool.readFully_typed ⟨.int 1, .int 100⟩ hseed
    (show Numeral.typedInt? "2" = some 2 by rfl)
  have hlonger := ListingTool.readFully_typed ⟨.int 1, .int 100⟩ hseed
    (show Numeral.typedInt? "3" = some 3 by rfl)
  have hlimit : 10 ^ 5 ≤ Numeral.limit := Numeral.pow_le_limit (by decide)
  have hstops : ∀ s ∈ ([⟨1251, 7973⟩, ⟨6561, 14⟩, ⟨6575, 14⟩] : List Span),
      s.stop < Numeral.limit := by
    intro s hs
    have hsmall : s.stop < 10 ^ 5 := by
      revert s
      decide
    omega
  have hends : (listingTool
      ["--seed=" ++ ofString "2005", "--count=" ++ ofString "3"]).ending = .status 0 := by
    simp only [listingTool, hlonger]
    exact ListingTool.ending_list_of_lt Walk.spans_2005 hstops
  obtain ⟨hwalks, hruns⟩ := listingTool_shorter 2005 2 3 (by decide)
  obtain ⟨first, hfirst, hbegins, hlength⟩ := hwalks 10000 _ Walk.spans_2005
  have hfew : first = [⟨1251, 7973⟩, ⟨6561, 14⟩] := by
    have htwo : first.length = 2 := Int.ofNat.inj hlength
    have htake := List.prefix_iff_eq_take.mp hbegins
    rw [htwo] at htake
    exact htake
  rw [hfew] at hfirst
  exact ⟨hfirst, hends, hruns _ _ hshorter hlonger hends⟩

end SourceSpans
