import SourceSpans.Proofs.Summary.Line
import SourceSpans.Proofs.Value.Literal
import SourceSpans.Value.Json
import Mathlib.Data.List.Basic

/-!
# JSON on one line

A JSON string is printable ASCII, whatever text it holds, so the JSON of a span
stays on one line.  It shows the end of the span, and can be written exactly
when the end has a numeral.
-/

namespace SourceSpans

open Text

namespace Json

/-! ## Strings -/

theorem plain_unitEscape (n : Nat) : (unitEscape n).Plain :=
  within_append.mpr ⟨by decide, plain_hex 4 n⟩

theorem plain_escape (c : CodePoint) : (escape c).Plain := by
  unfold escape
  refine within_ite (fun hmark => ?_) fun _ => ?_
  · have hc : c.isPlain = true := by
      rcases hmark with rfl | rfl
      · decide
      · decide
    have hbackslash : (0x5C : CodePoint).isPlain = true := by decide
    simp [hc, hbackslash]
  refine within_ite (fun _ => by decide) fun _ => ?_
  refine within_ite (fun _ => by decide) fun _ => ?_
  refine within_ite (fun _ => by decide) fun _ => ?_
  refine within_ite (fun _ => by decide) fun _ => ?_
  refine within_ite (fun _ => by decide) fun _ => ?_
  refine within_ite (fun hself => ?_) fun _ => ?_
  · have hc : c.isPlain = true := CodePoint.isPlain_iff.mpr hself
    simp [hc]
  refine within_ite (fun _ => plain_unitEscape c.val) fun _ => ?_
  exact within_append.mpr ⟨plain_unitEscape _, plain_unitEscape _⟩

/-- A string is printable ASCII, whatever text it holds. -/
theorem plain_ofText (t : Text) : (ofText t).Plain := by
  have hquote : (0x22 : CodePoint).isPlain = true := by decide
  have hbody : Plain (t.flatMap escape) := within_flatMap fun c _ => plain_escape c
  exact within_append.mpr
    ⟨within_cons.mpr ⟨hquote, hbody⟩, within_cons.mpr ⟨hquote, within_nil⟩⟩

/-- Printable ASCII stands for itself, apart from the quote and the backslash. -/
theorem escape_eq_self {c : CodePoint} (hplain : c.isPlain = true)
    (hquote : c ≠ 0x22) (hbackslash : c ≠ 0x5C) : escape c = [c] := by
  have hrange := CodePoint.isPlain_iff.mp hplain
  have hcontrol : ∀ d : CodePoint, d.val < 0x20 → c ≠ d := by
    rintro d hd rfl
    omega
  rw [escape, if_neg (by simp [hquote, hbackslash]), if_neg (hcontrol _ (by decide)),
    if_neg (hcontrol _ (by decide)), if_neg (hcontrol _ (by decide)),
    if_neg (hcontrol _ (by decide)), if_neg (hcontrol _ (by decide)), if_pos hrange]

theorem escape_of_isDigit {c : CodePoint} (h : c.isDigit = true) : escape c = [c] := by
  apply escape_eq_self (CodePoint.isPlain_of_isDigit h)
  · rintro rfl
    exact absurd h (by decide)
  · rintro rfl
    exact absurd h (by decide)

/-- The bracketed form of a span needs no escapes. -/
theorem ofText_of_ofSpan? {s : Span} {t : Text} (h : Bracketed.ofSpan? s = some t) :
    ofText t = "\"" ++ t ++ "\"" := by
  have hself : Within (fun c => escape c == [c]) t :=
    Bracketed.within_of_ofSpan? (by decide)
      (fun c hc => beq_iff_eq.mpr (escape_of_isDigit hc)) h
  have hbody : t.flatMap escape = t := by
    calc
      t.flatMap escape = t.flatMap fun c => [c] :=
        List.flatMap_congr fun c hc => beq_iff_eq.mp (hself c hc)
      _ = t := List.flatMap_singleton' t
  rw [ofText, hbody]
  rfl

theorem plain_ofBool (b : Bool) : (ofBool b).Plain := by
  cases b with
  | false => decide
  | true => decide

/-! ## Arrays and objects -/

theorem plain_member {key value : Text} (h : value.Plain) :
    (member key value).Plain :=
  within_append.mpr ⟨within_append.mpr ⟨plain_ofText key, by decide⟩, h⟩

theorem plain_object {members : List Text} (h : ∀ m ∈ members, m.Plain) :
    (object members).Plain :=
  within_append.mpr
    ⟨within_append.mpr ⟨by decide, within_join (by decide) h⟩, by decide⟩

theorem ofSpan?_of_lt {s : Span} (h : s.stop < Numeral.limit) :
    ofSpan? s = some (object
      [ member "end" (Numeral.digits s.stop),
        member "length" (Numeral.digits s.length),
        member "start" (Numeral.digits s.start),
        member "text" (ofText
          (Bracketed.enclose (Numeral.digits s.start) (Numeral.digits s.stop))) ]) := by
  have hstart : s.start < Numeral.limit := Nat.lt_of_le_of_lt s.start_le_stop h
  have hlength : s.length < Numeral.limit :=
    Nat.lt_of_le_of_lt (Nat.le_add_left s.length s.start) h
  simp [ofSpan?, Bracketed.ofNat?_of_lt h, Bracketed.ofNat?_of_lt hstart,
    Bracketed.ofNat?_of_lt hlength, Bracketed.ofSpan?_of_lt h]

theorem plain_of_ofSpan? {s : Span} {t : Text} (h : ofSpan? s = some t) :
    t.Plain := by
  simp only [ofSpan?, Option.bind_eq_bind, Option.bind_eq_some_iff, Option.pure_def,
    Option.some.injEq] at h
  obtain ⟨stop, hstop, length, hlength, start, hstart, text, -, rfl⟩ := h
  apply plain_object
  intro m hm
  simp only [List.mem_cons, List.not_mem_nil, or_false] at hm
  rcases hm with rfl | rfl | rfl | rfl
  · exact plain_member (Numeral.plain_of_ofNat? hstop)
  · exact plain_member (Numeral.plain_of_ofNat? hlength)
  · exact plain_member (Numeral.plain_of_ofNat? hstart)
  · exact plain_member (plain_ofText text)

theorem ofSpan?_of_le {s : Span} (h : Numeral.limit ≤ s.stop) :
    ofSpan? s = none := by
  simp [ofSpan?, Bracketed.ofNat?_of_le h]

/-! ## Calls -/

section Calls

variable {calls room : Nat} {activity : Text}

theorem enter_of_le (h : calls ≤ room) : enter calls activity room = .ok (room - calls) :=
  if_pos h

theorem enter_of_lt (h : room < calls) :
    enter calls activity room = .error (.tooDeep activity) :=
  if_neg (Nat.not_le_of_gt h)

theorem enter_cases (calls : Nat) (activity : Text) (room : Nat) :
    calls ≤ room ∧ enter calls activity room = .ok (room - calls) ∨
      room < calls ∧ enter calls activity room = .error (.tooDeep activity) := by
  by_cases h : calls ≤ room
  · exact .inl ⟨h, enter_of_le h⟩
  · exact .inr ⟨Nat.lt_of_not_le h, enter_of_lt (Nat.lt_of_not_le h)⟩

/-- The calls for an object of two members or more take room for two. -/
theorem enterObject_cases {members : Nat} (room : Nat) (hmembers : 2 ≤ members) :
    2 ≤ room ∧ enterObject members room = .ok (room - 1) ∨
      room < 2 ∧ ∃ activity, enterObject members room = .error (.tooDeep activity) := by
  have hobject : enterObject members room = (enterItems room >>= fun inner =>
      (enter 1 " in comparison" inner).map fun _ => inner) := by
    simp only [enterObject, if_neg (Nat.not_lt_of_le hmembers)]
  have hcases : 1 ≤ room ∧ enterItems room = .ok (room - 1) ∨
      room < 1 ∧ enterItems room = .error (.tooDeep " while encoding a JSON object") :=
    enter_cases 1 " while encoding a JSON object" room
  rw [hobject]
  obtain ⟨h, hitems⟩ | ⟨h, hitems⟩ := hcases
  · obtain ⟨h', hcompare⟩ | ⟨h', hcompare⟩ := enter_cases 1 " in comparison" (room - 1)
    · refine .inl ⟨by omega, ?_⟩
      simp [hitems, hcompare, bind, Except.bind, Except.map]
    · refine .inr ⟨by omega, " in comparison", ?_⟩
      simp [hitems, hcompare, bind, Except.bind, Except.map]
  · refine .inr ⟨Nat.lt_succ_of_lt h, " while encoding a JSON object", ?_⟩
    rw [hitems]
    rfl

end Calls

end Json

namespace Value

/-! ## Spans and truth values -/

variable {room : Nat} {s : Span}

theorem jsonWithin_span (h : 6 ≤ room) :
    (Value.span s).jsonWithin room = orOverlong (Json.ofSpan? s) := by
  have hconvert : Json.enter Json.converting.span "" room = .ok (room - 6) :=
    Json.enter_of_le h
  have hwrite : Json.enter (writingCalls (.span s)) "" room = .ok (room - 4) :=
    Json.enter_of_le (Nat.le_trans (show 4 ≤ 6 by decide) h)
  obtain ⟨-, hobject⟩ | ⟨hlt, -⟩ := Json.enterObject_cases (room - 4) (show 2 ≤ 4 by decide)
  · rw [jsonWithin, convert, hconvert, hwrite]
    cases hform : Json.ofSpan? s with
    | none => rfl
    | some t => simp [bind, Except.bind, Except.map, orOverlong, encode, hobject, hform]
  · omega

theorem json_span_of_ofSpan? {t : Text} (h : Json.ofSpan? s = some t) :
    (Value.span s).json = .ok t := by
  rw [json, jsonWithin_span (by decide), h]
  rfl

theorem json_span_of_lt (h : s.stop < Numeral.limit) :
    ∃ t, (Value.span s).json = .ok t ∧ t.Plain := by
  have hobject := Json.ofSpan?_of_lt h
  exact ⟨_, json_span_of_ofSpan? hobject, Json.plain_of_ofSpan? hobject⟩

theorem json_span_of_le (h : Numeral.limit ≤ s.stop) :
    (Value.span s).json = .error .overlong := by
  rw [json, jsonWithin_span (by decide), Json.ofSpan?_of_le h]
  rfl

theorem json_bool (b : Bool) : (Value.bool b).json = .ok (Json.ofBool b) := by
  have hconvert : (Value.bool b).convert Json.callLimit = .ok () := by
    simp only [convert]
    rfl
  rw [json, jsonWithin, hconvert]
  rfl

end Value

end SourceSpans
