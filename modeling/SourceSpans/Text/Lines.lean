import SourceSpans.Text.Basic

/-!
# Words and lines

The blanks are the white space of Unicode and the four information separators, and a
word is a longest run of other code points.  A file that is read as text has its
carriage returns turned into line feeds first; after that a text is cut at every line
break of Unicode, and one that ends in a break has no empty last line.
-/

namespace SourceSpans

/-! ## Blanks and words -/

/-- White space of Unicode and the information separators `0x1C` to `0x1F`. -/
def CodePoint.isBlank (c : CodePoint) : Bool :=
  let n := c.val
  (0x09 ≤ n && n ≤ 0x0D) || (0x1C ≤ n && n ≤ 0x20) || n == 0x85 || n == 0xA0 ||
    n == 0x1680 || (0x2000 ≤ n && n ≤ 0x200A) || n == 0x2028 || n == 0x2029 ||
    n == 0x202F || n == 0x205F || n == 0x3000

namespace Text

/-- No code point of the text is other than blank. -/
def isBlank (t : Text) : Bool := t.all CodePoint.isBlank

def words : Text → List Text
  | [] => []
  | c :: rest =>
      if c.isBlank then words rest
      else
        (c :: rest.takeWhile fun d => !d.isBlank) ::
          words (rest.dropWhile fun d => !d.isBlank)
termination_by t => t.length
decreasing_by
  · simp
  · have := (List.dropWhile_sublist (l := rest) fun d => !d.isBlank).length_le
    simp only [List.length_cons]
    omega

@[simp] theorem words_nil : words [] = [] := by
  simp [words]

theorem words_cons_of_blank {c : CodePoint} {rest : Text}
    (h : c.isBlank = true) : words (c :: rest) = words rest := by
  rw [words, if_pos h]

theorem words_cons_of_not_blank {c : CodePoint} {rest : Text}
    (h : c.isBlank = false) :
    words (c :: rest) =
      (c :: rest.takeWhile fun d => !d.isBlank) ::
        words (rest.dropWhile fun d => !d.isBlank) := by
  rw [words, if_neg (by simp [h])]

/-- At least one code point, none of them blank. -/
def IsWord (t : Text) : Prop := t ≠ [] ∧ ∀ c ∈ t, c.isBlank = false

/-- A word is one word. -/
theorem words_of_isWord {w : Text} (hw : IsWord w) : words w = [w] := by
  obtain ⟨hne, hnone⟩ := hw
  cases w with
  | nil => exact absurd rfl hne
  | cons c rest =>
      have hrest : ∀ d ∈ rest, (!d.isBlank) = true := by
        intro d hd
        simp [hnone d (List.mem_cons_of_mem c hd)]
      have htake : rest.takeWhile (fun d : CodePoint => !d.isBlank) = rest := by
        rw [← List.append_nil rest, List.takeWhile_append_of_pos hrest]
        rfl
      have hdrop : rest.dropWhile (fun d : CodePoint => !d.isBlank) = [] := by
        rw [← List.append_nil rest, List.dropWhile_append_of_pos hrest]
        rfl
      rw [words_cons_of_not_blank (hnone c List.mem_cons_self), htake, hdrop,
        words_nil]

/-- A word that a blank follows is the first of the words. -/
theorem words_append_blank {w rest : Text} {b : CodePoint}
    (hw : IsWord w) (hb : b.isBlank = true) :
    words (w ++ b :: rest) = w :: words rest := by
  obtain ⟨hne, hnone⟩ := hw
  cases w with
  | nil => exact absurd rfl hne
  | cons c tail =>
      have htail : ∀ d ∈ tail, (!d.isBlank) = true := by
        intro d hd
        simp [hnone d (List.mem_cons_of_mem c hd)]
      rw [List.cons_append, words_cons_of_not_blank (hnone c List.mem_cons_self),
        List.takeWhile_append_of_pos htail, List.dropWhile_append_of_pos htail,
        List.takeWhile_cons_of_neg (by simp [hb]),
        List.dropWhile_cons_of_neg (by simp [hb]), words_cons_of_blank hb,
        List.append_nil]

end Text

/-! ## Lines -/

def CodePoint.isLineBreak (c : CodePoint) : Bool :=
  let n := c.val
  (0x0A ≤ n && n ≤ 0x0D) || (0x1C ≤ n && n ≤ 0x1E) || n == 0x85 ||
    n == 0x2028 || n == 0x2029

namespace Text

/-- Each carriage return becomes a line feed, together with a line feed that
follows it. -/
def unifyNewlines : Text → Text
  | [] => []
  | [c] => [if c = '\r' then '\n' else c]
  | c :: d :: rest =>
      if c = '\r' then
        if d = '\n' then (0x0A : CodePoint) :: unifyNewlines rest
        else (0x0A : CodePoint) :: unifyNewlines (d :: rest)
      else c :: unifyNewlines (d :: rest)

/-- A text without the break at its start; a carriage return and a line feed
are one break. -/
def dropLineBreak : Text → Text
  | [] => []
  | [_] => []
  | c :: d :: rest => if c = '\r' ∧ d = '\n' then rest else d :: rest

theorem length_dropLineBreak_le (t : Text) :
    (dropLineBreak t).length ≤ t.length - 1 := by
  match t with
  | [] => simp [dropLineBreak]
  | [_] => simp [dropLineBreak]
  | c :: d :: rest =>
      simp only [dropLineBreak]
      split <;> simp

/-- The lines of a text without their breaks. -/
def lines : Text → List Text
  | [] => []
  | c :: rest =>
      (c :: rest).takeWhile (fun d => !d.isLineBreak) ::
        lines (dropLineBreak ((c :: rest).dropWhile fun d => !d.isLineBreak))
termination_by t => t.length
decreasing_by
  have hdrop := length_dropLineBreak_le
    ((c :: rest).dropWhile fun d => !d.isLineBreak)
  have hsuffix := (List.dropWhile_sublist (l := c :: rest)
    fun d => !d.isLineBreak).length_le
  simp only [List.length_cons] at hsuffix ⊢
  omega

@[simp] theorem lines_nil : lines [] = [] := by
  simp [lines]

theorem dropLineBreak_newline (rest : Text) :
    dropLineBreak (0x0A :: rest) = rest := by
  cases rest with
  | nil => rfl
  | cons d rest =>
      have hother : ¬((0x0A : CodePoint) = '\r' ∧ d = '\n') :=
        fun h => absurd h.1 (by decide)
      rw [dropLineBreak, if_neg hother]

/-- A line without breaks inside, ended by a line feed, is the first of the
lines. -/
theorem lines_append_newline {line rest : Text}
    (hline : ∀ c ∈ line, c.isLineBreak = false) :
    lines (line.withNewline ++ rest) = line :: lines rest := by
  have hpos : ∀ c ∈ line, (!c.isLineBreak) = true := by
    intro c hc
    simp [hline c hc]
  have hshape : line.withNewline ++ rest = line ++ 0x0A :: rest := by
    simp [withNewline]
  have htake : (line ++ 0x0A :: rest).takeWhile (fun d => !d.isLineBreak) =
      line := by
    rw [List.takeWhile_append_of_pos hpos,
      List.takeWhile_cons_of_neg (by decide), List.append_nil]
  have hdrop : (line ++ 0x0A :: rest).dropWhile (fun d => !d.isLineBreak) =
      0x0A :: rest := by
    rw [List.dropWhile_append_of_pos hpos, List.dropWhile_cons_of_neg (by decide)]
  rw [hshape]
  cases h : line ++ (0x0A : CodePoint) :: rest with
  | nil => simp at h
  | cons c tail =>
      rw [lines, ← h, htake, hdrop, dropLineBreak_newline]

/-- Lines without breaks inside are read back from what is put out for them. -/
theorem lines_ofLines {ls : List Text}
    (hls : ∀ line ∈ ls, ∀ c ∈ line, c.isLineBreak = false) :
    lines (ofLines ls) = ls := by
  induction ls with
  | nil => simp [ofLines]
  | cons line rest ih =>
      rw [ofLines, List.flatMap_cons, lines_append_newline (hls line (by simp)),
        ← ofLines, ih fun l hl => hls l (by simp [hl])]

end Text

end SourceSpans
