import SourceSpans.Proofs.Span.Codec
import SourceSpans.Proofs.Text.Quoted
import SourceSpans.Value.Basic

/-!
# Values that a message can show

A number is shown by its numeral if it has one, a text is quoted, and a list
shows its items.  All of this stays on one line, so a value can only be left
out of a message for a number that is too long.
-/

namespace SourceSpans

open Text

namespace Numeral

theorem plain_digits (n : Nat) : (digits n).Plain :=
  within_digits fun _ => CodePoint.isPlain_of_isDigit

theorem within_of_ofNat? {kind : CodePoint → Bool} {n : Nat} {t : Text}
    (hdigit : ∀ c, c.isDigit = true → kind c = true) (h : ofNat? n = some t) :
    t.Within kind := by
  have hrun : Bracketed.IsRun t := Bracketed.isRun_of_ofNat? h
  intro c hc
  exact hdigit c (hrun.2 c hc)

theorem within_of_ofInt? {kind : CodePoint → Bool} {n : Int} {t : Text}
    (hdigit : ∀ c, c.isDigit = true → kind c = true) (hminus : kind 0x2D = true)
    (h : ofInt? n = some t) : t.Within kind := by
  cases n with
  | ofNat n => exact within_of_ofNat? hdigit h
  | negSucc n =>
      rw [ofInt?] at h
      obtain ⟨u, hu, rfl⟩ := Option.map_eq_some_iff.mp h
      exact within_cons.mpr ⟨hminus, within_of_ofNat? hdigit hu⟩

theorem plain_of_ofNat? {n : Nat} {t : Text} (h : ofNat? n = some t) : t.Plain :=
  within_of_ofNat? (fun _ => CodePoint.isPlain_of_isDigit) h

theorem plain_of_ofInt? {n : Int} {t : Text} (h : ofInt? n = some t) : t.Plain :=
  within_of_ofInt? (fun _ => CodePoint.isPlain_of_isDigit) (by decide) h

/-- An integer has a numeral exactly when it is less than the limit away from
zero. -/
theorem exists_ofInt?_iff {n : Int} :
    (∃ t, ofInt? n = some t) ↔ n.natAbs < limit := by
  cases n with
  | ofNat n => simp [ofInt?, ofNat?]
  | negSucc n =>
      have habs : (Int.negSucc n).natAbs = n + 1 := rfl
      rw [habs]
      simp [ofInt?, ofNat?]

end Numeral

namespace Value

/-- The value can be shown in a message of one line. -/
def Presentable (v : Value) : Prop :=
  ∃ t, v.literal? = some t ∧ t.Unbroken

theorem presentable_null : Value.null.Presentable :=
  ⟨_, by rw [literal?], by decide⟩

theorem presentable_text (t : Text) : (Value.text t).Presentable :=
  ⟨Quoted.ofText t, by rw [literal?], Quoted.unbroken_ofText t⟩

theorem presentable_int_iff {n : Int} :
    (Value.int n).Presentable ↔ n.natAbs < Numeral.limit := by
  rw [← Numeral.exists_ofInt?_iff, Presentable, literal?]
  constructor
  · rintro ⟨t, ht, -⟩
    exact ⟨t, ht⟩
  · rintro ⟨t, ht⟩
    exact ⟨t, ht, (Numeral.plain_of_ofInt? ht).unbroken⟩

theorem exists_literals?_of_presentable {vs : List Value}
    (h : ∀ v ∈ vs, v.Presentable) :
    ∃ parts, literals? vs = some parts ∧ ∀ part ∈ parts, part.Unbroken := by
  induction vs with
  | nil => exact ⟨[], by rw [literals?], by simp⟩
  | cons v rest ih =>
      obtain ⟨⟨part, hpart, hone⟩, hrest⟩ := List.forall_mem_cons.mp h
      obtain ⟨parts, hparts, hall⟩ := ih hrest
      refine ⟨part :: parts, ?_, List.forall_mem_cons.mpr ⟨hone, hall⟩⟩
      rw [literals?, hpart, hparts]
      rfl

theorem presentable_list {vs : List Value} (h : ∀ v ∈ vs, v.Presentable) :
    (Value.list vs).Presentable := by
  obtain ⟨parts, hparts, hall⟩ := exists_literals?_of_presentable h
  refine ⟨_, by rw [literal?, hparts, Option.map_some], ?_⟩
  have hjoin : Unbroken (join ", " parts) := within_join (by decide) hall
  exact within_append.mpr ⟨within_append.mpr ⟨by decide, hjoin⟩, by decide⟩

end Value

namespace Complaint

/-- The complaint can be told in one line. -/
def Tellable (c : Complaint) : Prop :=
  ∃ message, c.message? = some message ∧ message.Unbroken

theorem tellable_malformed {v : Value} (h : v.Presentable) :
    (Complaint.malformed v).Tellable := by
  obtain ⟨t, ht, hunbroken⟩ := h
  refine ⟨_, by rw [message?, ht]; rfl, ?_⟩
  exact within_append.mpr ⟨within_append.mpr ⟨by decide, hunbroken⟩, by decide⟩

theorem tellable_negative {e : Span.Negative}
    (h : e.value.natAbs < Numeral.limit) : e.complaint.Tellable := by
  obtain ⟨t, ht⟩ := Numeral.exists_ofInt?_iff.mpr h
  have hdisplay : (Value.int e.value).display? = some t := by
    rw [Value.display?, Value.literal?, ht]
    all_goals simp
  have hname : e.field.name.Unbroken := by
    cases e.field with
    | start => decide
    | length => decide
  refine ⟨_, by rw [Span.Negative.complaint, message?, hdisplay]; rfl, ?_⟩
  have hnumber := (Numeral.plain_of_ofInt? ht).unbroken
  exact within_append.mpr
    ⟨within_append.mpr ⟨within_append.mpr ⟨hname, by decide⟩, hnumber⟩, by decide⟩

end Complaint

end SourceSpans
