import Mathlib.Data.List.Basic
import SourceSpans.Random.Twister

/-!
# Seeds of one word

A seed below `2 ^ 32` is a key of one word.  The words that it sets are found in
three passes, and in each of them a word depends on its place, on the word before
it and on the word that was there.  So the passes can be made over lists of
numbers, without a word being set, and the first words that the source hands out
are read off the last list.
-/

namespace SourceSpans

namespace Twister

/-! ## Words as numbers -/

/-- The word at a place, and the words with another one there. -/
def word (words : Words) (i : Nat) : UInt32 := words.get (place i)

def putAt (words : Words) (p : Fin size) (x : UInt32) : Words :=
  words.set p x p.isLt

def put (words : Words) (i : Nat) (x : UInt32) : Words := putAt words (place i) x

/-- The words are the given numbers. -/
def Shows (words : Words) (ns : List Nat) : Prop :=
  words.toList.map UInt32.toNat = ns

theorem place_val {i : Nat} (h : i < size) : (place i).val = i :=
  Nat.mod_eq_of_lt h

theorem place_before {i : Nat} (h : 1 ≤ i) (hi : i < size) :
    place (i + size - 1) = place (i - 1) := by
  apply Fin.ext
  dsimp only [place, size] at *
  omega

section Numbers

variable {words : Words} {rest ns : List Nat} {n i : Nat}

theorem Shows.length_eq (h : Shows words ns) : ns.length = size := by
  rw [← h, List.length_map, Vector.length_toList]

theorem Shows.getElem?_eq (h : Shows words ns) (hi : i < size) :
    ns[i]? = some (word words i).toNat := by
  change ns[i]? = some words[place i].toNat
  rw [← h, List.getElem?_map]
  simp [Fin.getElem_fin, place_val hi, hi]

theorem Shows.read {front : List Nat} (h : Shows words (front ++ n :: rest))
    (hi : front.length = i) : (word words i).toNat = n := by
  have hlength := h.length_eq
  rw [List.length_append, List.length_cons] at hlength
  have hread := h.getElem?_eq (show i < size by omega)
  rw [← hi, List.getElem?_append_right (Nat.le_refl _), Nat.sub_self] at hread
  subst hi
  exact (Option.some.inj hread).symm

theorem Shows.write (front : List Nat) (h : Shows words (front ++ n :: rest))
    (hi : front.length = i) (x : UInt32) :
    Shows (put words i x) (front ++ x.toNat :: rest) := by
  have hlength := h.length_eq
  rw [List.length_append, List.length_cons] at hlength
  have hplace : (place i).val = front.length :=
    (place_val (by omega)).trans hi.symm
  unfold Shows put putAt at *
  rw [Vector.toList_set, List.map_set, h, hplace]
  simp

theorem Shows.wrap {last : Nat} (h : Shows words (n :: (rest ++ [last]))) :
    Shows (wrap words) (last :: (rest ++ [last])) := by
  have hlength := h.length_eq
  have hplace : (n :: rest).length = size - 1 := by
    simp only [List.length_cons, List.length_append, List.length_nil] at *
    omega
  have hlast : (word words (size - 1)).toNat = last := Shows.read h hplace
  have hwrite := Shows.write [] h rfl (word words (size - 1))
  rw [hlast] at hwrite
  exact hwrite

end Numbers

/-! ## Passes -/

/-- How a word is changed: from its place, the word before it and what it was. -/
abbrev Rule := Nat → UInt32 → UInt32 → UInt32

/-- Change the word at a place that is not the first. -/
def amend (f : Rule) (i : Nat) (words : Words) : Words :=
  put words i (f i (word words (i - 1)) (word words i))

/-- Change a number of words from a place on, one after another. -/
def pass (f : Rule) : Nat → Nat → Words → Words
  | 0, _, words => words
  | n + 1, i, words => pass f n (i + 1) (amend f i words)

theorem pass_succ (f : Rule) (n i : Nat) (words : Words) :
    pass f (n + 1) i words = amend f (i + n) (pass f n i words) := by
  induction n generalizing i words with
  | zero => rfl
  | succ n ih => rw [pass, ih, pass, Nat.add_right_comm, Nat.add_assoc]

/-- The same on numbers, of which each is brought into its normal form before
the next one is looked at. -/
def scan (g : Nat → Nat → Nat → Nat) : Nat → Nat → List Nat → List Nat
  | _, _, [] => []
  | i, last, n :: rest =>
      match g i last n with
      | 0 => 0 :: scan g (i + 1) 0 rest
      | m + 1 => (m + 1) :: scan g (i + 1) (m + 1) rest

theorem scan_cons (g : Nat → Nat → Nat → Nat) (i last n : Nat)
    (rest : List Nat) :
    scan g i last (n :: rest) =
      g i last n :: scan g (i + 1) (g i last n) rest := by
  rw [scan]
  split
  next h => rw [h]
  next m h => rw [h]

theorem length_scan (g : Nat → Nat → Nat → Nat) (i last : Nat)
    (ns : List Nat) : (scan g i last ns).length = ns.length := by
  induction ns generalizing i last with
  | nil => rfl
  | cons n rest ih => rw [scan_cons, List.length_cons, ih, List.length_cons]

/-- A rule computes with words what a function computes with numbers. -/
def Computes (g : Nat → Nat → Nat → Nat) (f : Rule) : Prop :=
  ∀ i a b, i < size → (f i a b).toNat = g i a.toNat b.toNat

section Passes

variable {words : Words} {rest : List Nat} {last n i : Nat} {f : Rule}
  {g : Nat → Nat → Nat → Nat}

theorem Shows.amend (front : List Nat) (hg : Computes g f)
    (h : Shows words (front ++ last :: n :: rest))
    (hi : front.length + 1 = i) :
    Shows (amend f i words) (front ++ last :: g i last n :: rest) := by
  have hlength := h.length_eq
  simp only [List.length_append, List.length_cons] at hlength
  have hlast : (word words (i - 1)).toNat = last := h.read (by omega)
  rw [List.append_cons] at h ⊢
  have hfront : (front ++ [last]).length = i := by simpa using hi
  have hwrite := h.write _ hfront (f i (word words (i - 1)) (word words i))
  rw [hg _ _ _ (by omega), hlast, h.read hfront] at hwrite
  exact hwrite

theorem Shows.pass (front : List Nat) (hg : Computes g f)
    (h : Shows words (front ++ last :: rest)) (hi : front.length + 1 = i) :
    Shows (pass f rest.length i words)
      (front ++ last :: scan g i last rest) := by
  induction rest generalizing front last words i with
  | nil => exact h
  | cons n rest ih =>
    have hnext := h.amend _ hg hi
    have hfront : (front ++ [last]).length + 1 = i + 1 := by simpa using hi
    rw [List.append_cons] at hnext
    have hrest := ih _ hnext hfront
    rw [← List.append_cons] at hrest
    rw [scan_cons]
    exact hrest

/-- Behind the last word comes the first one, which takes its value, and then
the second one. -/
theorem Shows.close (hg : Computes g f) (hrest : rest ≠ [])
    (h : Shows words (last :: n :: rest)) :
    Shows (Twister.amend f 1 (Twister.wrap words))
      (rest.getLastD 0 :: g 1 (rest.getLastD 0) n :: rest) := by
  obtain ⟨before, final, rfl⟩ := (List.eq_nil_or_concat' rest).resolve_left hrest
  rw [List.getLastD_concat]
  have hwords : Shows words (last :: ((n :: before) ++ [final])) := h
  exact Shows.amend [] hg hwords.wrap rfl

end Passes

/-! ## Setting the state -/

def wordRule : Rule := fun i last _ =>
  (1812433253 : UInt32) * (last ^^^ (last >>> 30)) + UInt32.ofNat i

def keyRule (k : UInt32) : Rule := fun _ last w =>
  (w ^^^ ((last ^^^ (last >>> 30)) * 1664525)) + k + UInt32.ofNat 0

def placeRule : Rule := fun i last w =>
  (w ^^^ ((last ^^^ (last >>> 30)) * 1566083941)) - UInt32.ofNat i

def wordNumber (i last _ : Nat) : Nat :=
  (1812433253 * (last ^^^ (last >>> 30)) + i) % 4294967296

def keyNumber (k _ last n : Nat) : Nat :=
  ((n ^^^ ((last ^^^ (last >>> 30)) * 1664525 % 4294967296)) + k) % 4294967296

def placeNumber (i last n : Nat) : Nat :=
  (4294967296 - i +
    (n ^^^ ((last ^^^ (last >>> 30)) * 1566083941 % 4294967296))) % 4294967296

theorem computes_word : Computes wordNumber wordRule := by
  intro i a b hi
  simp [wordNumber, wordRule]

theorem computes_key (k : UInt32) : Computes (keyNumber k.toNat) (keyRule k) := by
  intro i a b hi
  simp [keyNumber, keyRule]

theorem computes_place : Computes placeNumber placeRule := by
  intro i a b hi
  have hsmall : i % 4294967296 = i := by
    dsimp only [size] at hi
    omega
  simp [placeNumber, placeRule, UInt32.toNat_sub, hsmall]

theorem fromWord_eq_pass (seed : UInt32) :
    fromWord seed = pass wordRule (size - 1) 1 (Vector.replicate size seed) := by
  unfold fromWord
  induction size - 1 with
  | zero => rfl
  | succ n ih =>
    rw [Nat.fold_succ, ih, pass_succ, Nat.add_comm 1 n]
    rfl

theorem shows_fromWord (seed : UInt32) :
    Shows (fromWord seed) (seed.toNat ::
      scan wordNumber 1 seed.toNat (List.replicate (size - 1) seed.toNat)) := by
  have hstart : Shows (Vector.replicate size seed)
      (seed.toNat :: List.replicate (size - 1) seed.toNat) := by
    rw [Shows, Vector.toList_replicate, List.map_replicate]
    exact List.replicate_succ
  have hpass := Shows.pass [] computes_word hstart rfl
  rw [List.length_replicate] at hpass
  rw [fromWord_eq_pass]
  exact hpass

/-! ## Rounds -/

/-- Change a number of words from a place on; behind the last word a new round
begins. -/
def rounds (f : Rule) : Nat → Nat → Words → Nat × Words
  | 0, i, words => (i, words)
  | n + 1, i, words =>
      if i + 1 = size then rounds f n 1 (wrap (amend f i words))
      else rounds f n (i + 1) (amend f i words)

section Rounds

variable {n i : Nat}

theorem mixKey_eq_rounds (k : UInt32) (hi : 1 ≤ i) (hlt : i < size)
    (words : Words) :
    mixKey #[k] n i 0 words = rounds (keyRule k) n i words := by
  induction n generalizing i words with
  | zero => rfl
  | succ n ih =>
    simp only [mixKey, stir, place_before hi hlt, rounds]
    by_cases hlast : i + 1 = size
    · rw [if_pos hlast, if_pos hlast, if_pos hlast]
      exact ih (Nat.le_refl 1) (by decide) _
    · rw [if_neg hlast, if_neg hlast, if_neg hlast]
      exact ih (Nat.le_add_left 1 i) (by omega) _

theorem mixPlaces_eq_rounds (hi : 1 ≤ i) (hlt : i < size) (words : Words) :
    mixPlaces n i words = (rounds placeRule n i words).2 := by
  induction n generalizing i words with
  | zero => rfl
  | succ n ih =>
    simp only [mixPlaces, stir, place_before hi hlt, rounds]
    by_cases hlast : i + 1 = size
    · rw [if_pos hlast, if_pos hlast, if_pos hlast]
      exact ih (Nat.le_refl 1) (by decide) _
    · rw [if_neg hlast, if_neg hlast, if_neg hlast]
      exact ih (Nat.le_add_left 1 i) (by omega) _

theorem rounds_eq_pass (f : Rule) (more : Nat) (hn : i + n < size)
    (words : Words) :
    rounds f (more + n) i words = rounds f more (i + n) (pass f n i words) := by
  induction n generalizing i words with
  | zero => rfl
  | succ n ih =>
    rw [← Nat.add_assoc, rounds, if_neg (by omega), ih (by omega),
      Nat.add_assoc i 1 n, Nat.add_comm 1 n, pass]

theorem rounds_close (f : Rule) {count : Nat} (hcount : count = 2 + n)
    (hn : i + n + 1 = size) (words : Words) :
    rounds f count i words =
      (2, amend f 1 (wrap (pass f (n + 1) i words))) := by
  rw [hcount, rounds_eq_pass f 2 (by omega), rounds, if_pos hn, rounds,
    if_neg (by decide), pass_succ]
  rfl

end Rounds

theorem Shows.mixKey {words : Words} {k : UInt32} {first second : Nat}
    {ns rest : List Nat} (h : Shows words (first :: ns))
    (hscan : scan (keyNumber k.toNat) 1 first ns = second :: rest)
    (hrest : rest ≠ []) :
    (mixKey #[k] size 1 0 words).1 = 2 ∧
      Shows (mixKey #[k] size 1 0 words).2
        (rest.getLastD 0 :: keyNumber k.toNat 1 (rest.getLastD 0) second :: rest) := by
  have hcount : ns.length = 622 + 1 := Nat.succ.inj h.length_eq
  have hpass := Shows.pass (i := 1) [] (computes_key k) h rfl
  rw [hcount, List.nil_append, hscan] at hpass
  have hmixed : Twister.mixKey #[k] size 1 0 words =
      (2, Twister.amend (keyRule k) 1
        (Twister.wrap (Twister.pass (keyRule k) (622 + 1) 1 words))) := by
    rw [mixKey_eq_rounds k (Nat.le_refl 1) (by decide),
      rounds_close (n := 622) (keyRule k) (by decide) (by decide)]
  rw [hmixed]
  exact ⟨rfl, hpass.close (computes_key k) hrest⟩

theorem Shows.mixPlaces {words : Words} {first second : Nat}
    {ns rest : List Nat} (h : Shows words (first :: second :: ns))
    (hscan : scan placeNumber 2 second ns = rest) (hrest : rest ≠ []) :
    Shows (mixPlaces (size - 1) 2 words)
      (rest.getLastD 0 :: placeNumber 1 (rest.getLastD 0) second :: rest) := by
  have hcount : ns.length = 621 + 1 := Nat.succ.inj (Nat.succ.inj h.length_eq)
  have hpass := Shows.pass (i := 2) [first] computes_place h rfl
  rw [hcount] at hpass
  have hmixed : Twister.mixPlaces (size - 1) 2 words =
      Twister.amend placeRule 1
        (Twister.wrap (Twister.pass placeRule (621 + 1) 2 words)) := by
    rw [mixPlaces_eq_rounds (by decide) (by decide),
      rounds_close (n := 621) placeRule (by decide) (by decide)]
  subst hscan
  rw [hmixed]
  exact hpass.close computes_place hrest

/-- The numbers that a key of one word sets the words to. -/
def seeded (k : Nat) : List Nat :=
  match scan (keyNumber k) 1 19650218
      (scan wordNumber 1 19650218 (List.replicate (size - 1) 19650218)) with
  | [] => []
  | second :: rest =>
      let second := keyNumber k 1 (rest.getLastD 0) second
      let rest := scan placeNumber 2 second rest
      0x80000000 :: placeNumber 1 (rest.getLastD 0) second :: rest

theorem shows_ofKey (k : UInt32) : Shows (ofKey #[k]).words (seeded k.toNat) := by
  have hsize : max size #[k].size = size := rfl
  have hword := shows_fromWord 19650218
  have hlength : (scan (keyNumber k.toNat) 1 19650218 (scan wordNumber 1 19650218
      (List.replicate (size - 1) 19650218))).length = 622 + 1 := by
    rw [length_scan, length_scan]
    exact List.length_replicate
  rw [seeded]
  cases hscan : scan (keyNumber k.toNat) 1 19650218
      (scan wordNumber 1 19650218 (List.replicate (size - 1) 19650218)) with
  | nil =>
    rw [hscan] at hlength
    cases hlength
  | cons second rest =>
    rw [hscan] at hlength
    have hcount : rest.length = 622 := Nat.succ.inj hlength
    have hrest : rest ≠ [] := List.ne_nil_of_length_pos (by omega)
    have hplaces : scan placeNumber 2
        (keyNumber k.toNat 1 (rest.getLastD 0) second) rest ≠ [] := by
      apply List.ne_nil_of_length_pos
      rw [length_scan]
      omega
    obtain ⟨htwo, hmixed⟩ := hword.mixKey hscan hrest
    have hset := Shows.write [] (hmixed.mixPlaces rfl hplaces) rfl 0x80000000
    dsimp only [ofKey]
    rw [hsize, htwo]
    exact hset

/-! ## Renewing the words -/

/-- The new word from the word at its place, the next one and the one further
ahead. -/
def twist (here next ahead : UInt32) : UInt32 :=
  let y := (here &&& 0x80000000) ||| (next &&& 0x7FFFFFFF)
  let z := ahead ^^^ (y >>> 1)
  if y &&& 1 = 0 then z else z ^^^ 0x9908B0DF

theorem renewed_eq_twist (words : Words) (i : Nat) :
    renewed words i =
      twist (word words i) (word words (i + 1)) (word words (i + 397)) := rfl

theorem word_put {words : Words} {i j : Nat} (x : UInt32) (hi : i < size)
    (hj : j < size) :
    word (put words i x) j = if i = j then x else word words j := by
  change (words.set (place i) x)[place j] = if i = j then x else words[place j]
  rw [Fin.getElem_fin, Vector.getElem_set, place_val hi]
  simp [place_val hj]

/-- The words of which the first ones have been renewed. -/
def renewedUpTo (n : Nat) (words : Words) : Words :=
  Nat.fold n (fun i _ words => put words i (renewed words i)) words

theorem renewedUpTo_succ (n : Nat) (words : Words) :
    renewedUpTo (n + 1) words =
      put (renewedUpTo n words) n (renewed (renewedUpTo n words) n) :=
  Nat.fold_succ ..

/-- Words are renewed in order, and those that come early enough from words that
have not been. -/
theorem word_renewedUpTo (words : Words) {n i : Nat} (hn : n ≤ size)
    (hi : i < size) :
    (n ≤ i → word (renewedUpTo n words) i = word words i) ∧
      (i < n → i + 397 < size →
        word (renewedUpTo n words) i = renewed words i) := by
  induction n generalizing i with
  | zero => exact ⟨fun _ => rfl, fun h => absurd h (Nat.not_lt_zero i)⟩
  | succ n ih =>
    rw [renewedUpTo_succ, word_put _ hn hi]
    constructor
    · intro hlater
      rw [if_neg (Nat.ne_of_lt hlater)]
      exact (ih (Nat.le_of_succ_le hn) hi).1 (Nat.le_of_succ_le hlater)
    · intro hearlier hahead
      by_cases hsame : n = i
      · subst hsame
        have hkept : ∀ j < size, n ≤ j →
            word (renewedUpTo n words) j = word words j := by
          intro j hj hle
          exact (ih (Nat.le_of_succ_le hn) hj).1 hle
        rw [if_pos rfl, renewed_eq_twist, renewed_eq_twist,
          hkept n hi (Nat.le_refl n), hkept (n + 1) (by omega) (Nat.le_succ n),
          hkept (n + 397) hahead (Nat.le_add_right n 397)]
      · rw [if_neg hsame]
        exact (ih (Nat.le_of_succ_le hn) hi).2 (by omega) hahead

theorem word_renew (words : Words) {i : Nat} (hi : i + 397 < size) :
    word (renew words) i = renewed words i :=
  (word_renewedUpTo words (Nat.le_refl size) (by omega)).2 (by omega) hi

/-! ## Words handed out -/

/-- The word that is handed out from a place once the words have been set to the
given numbers and renewed. -/
def handed (ns : List Nat) (i : Nat) : UInt32 :=
  temper (twist (UInt32.ofNat (ns.getD i 0)) (UInt32.ofNat (ns.getD (i + 1) 0))
    (UInt32.ofNat (ns.getD (i + 397) 0)))

theorem Shows.ofNat_getD {words : Words} {ns : List Nat} (h : Shows words ns)
    {i : Nat} (hi : i < size) :
    UInt32.ofNat (ns.getD i 0) = word words i := by
  rw [List.getD_eq_getElem?_getD, h.getElem?_eq hi, Option.getD_some,
    UInt32.ofNat_toNat]

theorem Shows.handed {words : Words} {ns : List Nat} (h : Shows words ns)
    {i : Nat} (hi : i + 397 < size) :
    temper (word (renew words) i) = handed ns i := by
  rw [Twister.handed, h.ofNat_getD (by omega), h.ofNat_getD (by omega),
    h.ofNat_getD hi, ← renewed_eq_twist, word_renew words hi]

theorem used_ofKey (key : Array UInt32) : (ofKey key).used = size := rfl

theorem next_of_le {source : Twister} (h : size ≤ source.used) :
    source.next =
      (temper (word (renew source.words) 0), ⟨renew source.words, 1⟩) := by
  rw [next, if_neg (Nat.not_lt.mpr h)]
  rfl

theorem next_of_lt {source : Twister} (h : source.used < size) :
    source.next = (temper (word source.words source.used),
      ⟨source.words, source.used + 1⟩) := by
  rw [next, if_pos h]
  rfl

/-- The source hands out these words next. -/
def Hands : List UInt32 → Twister → Prop
  | [], _ => True
  | w :: ws, source => source.next.1 = w ∧ Hands ws source.next.2

theorem hands_renewed {words : Words} {ns : List Nat} (h : Shows words ns)
    {i count : Nat} (hcount : i + count + 397 ≤ size) :
    Hands ((List.range' i count).map (handed ns)) ⟨renew words, i⟩ := by
  induction count generalizing i with
  | zero => trivial
  | succ count ih =>
    have hi : i < size := by omega
    rw [List.range'_succ, List.map_cons, ← h.handed (by omega), Hands,
      next_of_lt hi]
    exact ⟨rfl, ih (by omega)⟩

/-- The words that a new source hands out before it makes use of renewed ones. -/
theorem hands_ofKey (k : UInt32) {count : Nat} (hcount : count + 397 ≤ size) :
    Hands ((List.range' 0 count).map (handed (seeded k.toNat))) (ofKey #[k]) := by
  have hshows := shows_ofKey k
  cases count with
  | zero => trivial
  | succ count =>
    rw [List.range'_succ, List.map_cons, ← hshows.handed (by omega), Hands,
      next_of_le (Nat.le_of_eq (used_ofKey _).symm)]
    exact ⟨rfl, hands_renewed hshows (by omega)⟩

theorem bits_of_le {count : Nat} (hcount : count ≤ 32) (source : Twister) :
    source.bits count =
      (source.next.1.toNat / Nat.pow 2 (32 - count), source.next.2) := by
  rw [bits]
  exact if_neg (Nat.not_lt.mpr hcount)

theorem below?_of_lt {bound : Nat} {source : Twister}
    (h : (source.bits (bitLength bound)).1 < bound) (tries : Nat) :
    below? bound (tries + 1) source = some (source.bits (bitLength bound)) :=
  if_pos h

section Draws

variable {a b : UInt32} {ws : List UInt32} {source : Twister}

theorem Hands.fraction {roll : Nat} (h : Hands (a :: b :: ws) source)
    (hroll : (a.toNat / 32) * Nat.pow 2 26 + b.toNat / 64 = roll) :
    ∃ after, Hands ws after ∧ source.fraction = (roll, after) := by
  obtain ⟨rfl, rfl, hrest⟩ := h
  exact ⟨source.next.2.next.2, hrest, congrArg (·, source.next.2.next.2) hroll⟩

/-- A number that is drawn with one word at the first try. -/
theorem Hands.integer {low high : Int} {bound n : Nat} (h : Hands (a :: ws) source)
    (hbound : (high - low + 1).toNat = bound) (hbits : bitLength bound ≤ 32)
    (hn : a.toNat / Nat.pow 2 (32 - bitLength bound) = n) (hlt : n < bound) :
    ∃ after, Hands ws after ∧ source.integer low high = .ok (low + n, after) := by
  obtain ⟨rfl, hrest⟩ := h
  have hrange : ¬high < low := by omega
  have hdrawn := bits_of_le hbits source
  rw [hn] at hdrawn
  refine ⟨source.next.2, hrest, ?_⟩
  rw [Twister.integer, if_neg hrange, hbound, below?_of_lt (by rwa [hdrawn]),
    hdrawn]

end Draws

end Twister

end SourceSpans
