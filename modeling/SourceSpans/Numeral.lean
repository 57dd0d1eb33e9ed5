import SourceSpans.Text.Basic
import SourceSpans.Text.Lines

/-!
# Decimal numerals

Numbers are written in decimal without leading zeros.  Both ways between numbers and
numerals are closed beyond a fixed number of digits: a longer number has no numeral,
and a longer numeral is not read, even when all its digits are zeros.
-/

namespace SourceSpans

namespace Numeral

/-- The most digits that a numeral may have. -/
def maxDigits : Nat := 4300

/-- The least number that has no numeral. -/
def limit : Nat := Nat.pow 10 maxDigits

def digits (n : Nat) : Text :=
  (Nat.toDigits 10 n).map CodePoint.ofChar

/-- The numeral of a number below the limit. -/
def ofNat? (n : Nat) : Option Text :=
  if n < limit then some (digits n) else none

/-- The numeral of an integer; the sign is no digit. -/
def ofInt? : Int → Option Text
  | .ofNat n => ofNat? n
  | .negSucc n => (ofNat? (n + 1)).map ((0x2D : CodePoint) :: ·)

/-- The number that a run of digits stands for. -/
def value (t : Text) : Nat :=
  t.foldl (fun n c => 10 * n + (c.val - 0x30)) 0

/-- The number of a run of digits that is not too long. -/
def read? (t : Text) : Option Nat :=
  if t.length ≤ maxDigits then some (value t) else none

/-! ## Writing and reading -/

theorem isDigit_ofChar {c : Char} (h : c.isDigit = true) :
    (CodePoint.ofChar c).isDigit = true := by
  simp only [Char.isDigit, Bool.and_eq_true, decide_eq_true_eq] at h
  rw [CodePoint.isDigit, Bool.and_eq_true, decide_eq_true_eq, decide_eq_true_eq]
  exact ⟨UInt32.le_iff_toNat_le.mp h.1, UInt32.le_iff_toNat_le.mp h.2⟩

theorem isDigit_of_mem_digits {n : Nat} {c : CodePoint} (h : c ∈ digits n) :
    c.isDigit = true := by
  obtain ⟨d, hd, rfl⟩ := List.mem_map.mp h
  exact isDigit_ofChar (Nat.isDigit_of_mem_toDigits (by decide) (by decide) hd)

theorem digits_ne_nil (n : Nat) : digits n ≠ [] := by
  simp [digits, Nat.toDigits_ne_nil]

theorem value_map_ofChar (ds : List Char) :
    value (ds.map CodePoint.ofChar) = Nat.ofDigitChars 10 ds 0 := by
  rw [value, Nat.ofDigitChars_eq_foldl, List.foldl_map]
  rfl

/-- The digits of a number stand for the number. -/
theorem value_digits (n : Nat) : value (digits n) = n := by
  rw [digits, value_map_ofChar, Nat.ofDigitChars_toDigits (by decide) (by decide)]

/-- A number is below the limit exactly when its digits are few enough. -/
theorem length_digits_le_iff (n : Nat) :
    (digits n).length ≤ maxDigits ↔ n < limit := by
  have hpos : 0 < maxDigits := by decide
  rw [digits, List.length_map]
  unfold limit
  -- The limit itself is too large to be computed.
  generalize maxDigits = k at hpos ⊢
  exact Nat.length_toDigits_le_iff (by decide) hpos

theorem read?_of_ofNat? {n : Nat} {t : Text} (h : ofNat? n = some t) :
    read? t = some n := by
  unfold ofNat? at h
  split at h
  next hn =>
    obtain rfl := Option.some.inj h
    rw [read?, if_pos ((length_digits_le_iff n).mpr hn), value_digits]
  next => simp at h

end Numeral

/-! ## Digits of every script -/

namespace DecimalDigit

/-- The digit zero of each script in increasing order. -/
def zeros : List Nat :=
  [ 0x0030, 0x0660, 0x06F0, 0x07C0, 0x0966, 0x09E6, 0x0A66, 0x0AE6, 0x0B66, 0x0BE6,
    0x0C66, 0x0CE6, 0x0D66, 0x0DE6, 0x0E50, 0x0ED0, 0x0F20, 0x1040, 0x1090, 0x17E0,
    0x1810, 0x1946, 0x19D0, 0x1A80, 0x1A90, 0x1B50, 0x1BB0, 0x1C40, 0x1C50, 0xA620,
    0xA8D0, 0xA900, 0xA9D0, 0xA9F0, 0xAA50, 0xABF0, 0xFF10, 0x104A0, 0x10D30,
    0x11066, 0x110F0, 0x11136, 0x111D0, 0x112F0, 0x11450, 0x114D0, 0x11650, 0x116C0,
    0x11730, 0x118E0, 0x11950, 0x11C50, 0x11D50, 0x11DA0, 0x16A60, 0x16AC0, 0x16B50,
    0x1D7CE, 0x1D7D8, 0x1D7E2, 0x1D7EC, 0x1D7F6, 0x1E140, 0x1E2F0, 0x1E950, 0x1FBF0 ]

/-- Each run of ten digits ends before the next one starts. -/
theorem zeros_apart : zeros.Pairwise fun z next => z + 10 ≤ next := by
  decide +kernel

end DecimalDigit

def CodePoint.digitValue? (c : CodePoint) : Option Nat :=
  (DecimalDigit.zeros.find? fun z => z ≤ c.val && c.val < z + 10).map
    fun z => c.val - z

/-! ## Numerals typed by a person -/

namespace Numeral

/-- The blanks that may stand around a typed numeral. -/
def isPadding (c : CodePoint) : Bool :=
  c.isBlank && !(0x1C ≤ c.val && c.val ≤ 0x1F)

/-- A text without the padding at its two ends. -/
def trim (t : Text) : Text :=
  ((t.dropWhile isPadding).reverse.dropWhile isPadding).reverse

/-- The digit values of a grouped run of digits; an underscore must have a
digit on both sides. -/
def groupedDigits? : Text → Option (List Nat)
  | [] => none
  | [c] => c.digitValue?.map ([·])
  | c :: d :: rest => do
      let v ← c.digitValue?
      let vs ←
        if d = '_' then groupedDigits? rest else groupedDigits? (d :: rest)
      return v :: vs

/-- The number of a typed run of digits that is not too long. -/
def typedNat? (t : Text) : Option Nat := do
  let vs ← groupedDigits? t
  if vs.length ≤ maxDigits then return vs.foldl (fun n v => 10 * n + v) 0
  else none

def typedInt? (t : Text) : Option Int :=
  match trim t with
  | [] => none
  | sign :: rest =>
      if sign = '-' then (typedNat? rest).map fun n => -(n : Int)
      else if sign = '+' then (typedNat? rest).map fun n => (n : Int)
      else (typedNat? (sign :: rest)).map fun n => (n : Int)

end Numeral

end SourceSpans
