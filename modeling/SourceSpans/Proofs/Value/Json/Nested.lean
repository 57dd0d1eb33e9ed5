import SourceSpans.Proofs.Success
import SourceSpans.Proofs.Text.Utf8
import SourceSpans.Proofs.Value.Json

/-!
# Nested lists as JSON

Lists may be nested and hold spans, whole numbers, truth values, texts and nothing.
Such a value has JSON unless a number without a numeral stands in it, or a span whose
end has none, at whatever depth, or unless its nesting takes more calls than there is
room for.
-/

namespace SourceSpans

open Text

namespace Value

/-- A value stands in itself and in every list that has an item in which it stands. -/
inductive StandsIn (w : Value) : Value → Prop
  | itself : StandsIn w w
  | inItem {items : List Value} {v : Value} (hv : v ∈ items) (h : StandsIn w v) :
      StandsIn w (.list items)

/-- A number without a numeral, or a span whose end has none. -/
def LacksNumeral : Value → Prop
  | .int n => Numeral.limit ≤ n.natAbs
  | .span s => Numeral.limit ≤ s.stop
  | _ => False

/-- Something that has no numeral stands in the value, at whatever depth. -/
def HoldsOverlong (v : Value) : Prop := ∃ w : Value, w.StandsIn v ∧ w.LacksNumeral

variable {v : Value} {items : List Value}

theorem holdsOverlong_list_iff :
    (Value.list items).HoldsOverlong ↔ ∃ v ∈ items, v.HoldsOverlong := by
  constructor
  · rintro ⟨w, hstands, hw⟩
    cases hstands with
    | itself => exact hw.elim
    | inItem hmem h => exact ⟨_, hmem, w, h, hw⟩
  · rintro ⟨v, hmem, w, hstands, hw⟩
    exact ⟨w, .inItem hmem hstands, hw⟩

/-! ## Calls -/

mutual

/-- How many calls one inside the other a value takes. -/
def depth (calls : Json.Calls) : Value → Nat
  | .list items => calls.list + itemsDepth calls items
  | .span _ => calls.span
  | _ => calls.other

def itemsDepth (calls : Json.Calls) : List Value → Nat
  | [] => 0
  | v :: rest => max (depth calls v) (itemsDepth calls rest)

end

variable {calls : Json.Calls} {room : Nat} {f : Fault}

theorem depth_list : (Value.list items).depth calls = calls.list + itemsDepth calls items := by
  rw [depth]

theorem itemsDepth_le_iff {n : Nat} :
    itemsDepth calls items ≤ n ↔ ∀ v ∈ items, v.depth calls ≤ n := by
  induction items with
  | nil => simp [itemsDepth]
  | cons v rest ih => rw [itemsDepth, Nat.max_le, ih, List.forall_mem_cons]

theorem depth_le_itemsDepth (hv : v ∈ items) : v.depth calls ≤ itemsDepth calls items :=
  itemsDepth_le_iff.mp (Nat.le_refl _) v hv

/-- Why a value is refused where there is room for some number of calls: something in
it has no numeral, or it takes more calls. -/
inductive Refused (calls : Json.Calls) (room : Nat) (v : Value) : Fault → Prop
  | overlong (h : v.HoldsOverlong) : Refused calls room v .overlong
  | tooDeep (activity : Text) (h : room < v.depth calls) :
      Refused calls room v (.tooDeep activity)

/-- A list is refused for its items, which have less room. -/
theorem Refused.list (hv : v ∈ items) (h : Refused calls (room - calls.list) v f) :
    Refused calls room (.list items) f := by
  cases h with
  | overlong h => exact .overlong (holdsOverlong_list_iff.mpr ⟨v, hv, h⟩)
  | tooDeep activity h =>
      apply Refused.tooDeep
      have hle : v.depth calls ≤ itemsDepth calls items := depth_le_itemsDepth hv
      rw [depth_list]
      omega

/-- What comes of going through a value: a result with a property, where there is room
for the calls, or else the reason why the value is refused. -/
inductive Passed {α : Type} (calls : Json.Calls) (room : Nat) (v : Value) (Q : α → Prop) :
    Except Fault α → Prop
  | ok {a : α} (ha : Q a) (hfits : v.depth calls ≤ room) : Passed calls room v Q (.ok a)
  | refused {f : Fault} (h : Refused calls room v f) : Passed calls room v Q (.error f)

section Passed

variable {α : Type} {Q : α → Prop} {result : Except Fault α}

theorem Passed.of_ok {a : α} (h : Passed calls room v Q result) (ha : result = .ok a) :
    Q a ∧ v.depth calls ≤ room := by
  subst ha
  cases h with
  | ok ha hfits => exact ⟨ha, hfits⟩

end Passed

/-! ## Converting -/

theorem encodeItems_eq_mapM (inList : Bool) (room : Nat) (items : List Value) :
    encodeItems inList room items = items.mapM (encode inList room) := by
  induction items with
  | nil => rfl
  | cons v rest ih =>
      rw [encodeItems, List.mapM_cons, ih]

theorem encode_list (inList : Bool) (room : Nat) (items : List Value) :
    (Value.list items).encode inList room = (Json.enterItems room >>= fun inner =>
      (items.mapM (encode inList inner)).map Json.array) := by
  simp only [encode, encodeItems_eq_mapM]

end Value

end SourceSpans
