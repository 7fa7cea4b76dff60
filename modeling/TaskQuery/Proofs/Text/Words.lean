import Mathlib.Data.List.DropRight
import TaskQuery.Proofs.Text.Squeeze
import TaskQuery.Proofs.Text.Surroundings

/-!
# Words by parts

What the words of a text are around one of its characters, and what trimming leaves of the text.

* `words_append_blank`: a blank separates the words in front of it from those behind it, so that
  words are those of the text in which they are joined by spaces (`words_join`).
* `mem_words_append_cons`: around another character, all words but the one that it belongs to.
* `splitOn_word`: a text is cut around a word that stands in it once.
* `count_eq_of_words_eq`: the words say how often a character occurs that is no blank.
* `exists_trim_between`, `infix_trim`, `trim_trim`, `trim_append`: a trimmed text stands between
  blanks.
* `words_lower`: words are put in lower case one by one, because no letter is seen behind a blank
  and no other character becomes one; so trimming changes none of them (`words_lower_trim`).
-/

namespace TaskQuery.Text

variable {s a b w : List Char} {c : Char}

/-! ## Around one character -/

/-- A word is the leading one or one behind it. -/
theorem mem_words_iff (hw : w ≠ []) (s : List Char) :
    w ∈ words s ↔ w = (leadingWord s).1 ∨ w ∈ (leadingWord s).2 := by
  have h := exists_mem_words_iff (P := fun v => v = w) (fun h => hw h.symm) s
  simpa [eq_comm] using h

/-- Words behind a text follow its own. -/
theorem words_of_leadingWord_append {rest : List (List Char)}
    (h : leadingWord s = ((leadingWord a).1, (leadingWord a).2 ++ rest)) :
    words s = words a ++ rest := by
  rw [words, h, words]
  obtain ⟨front, later⟩ := leadingWord a
  cases front <;> rfl

/-- Behind a blank the words start anew. -/
theorem leadingWord_append_blank (hc : isBlank c = true) (a b : List Char) :
    leadingWord (a ++ c :: b) = ((leadingWord a).1, (leadingWord a).2 ++ words b) := by
  induction a with
  | nil => exact leadingWord_of_blank hc b
  | cons d a ih =>
    cases hd : isBlank d with
    | true =>
      rw [List.cons_append, leadingWord_of_blank hd, leadingWord_of_blank hd,
        words_of_leadingWord_append ih]
    | false => rw [List.cons_append, leadingWord_of_not_blank hd, leadingWord_of_not_blank hd, ih]

/-- A blank separates the words in front of it from those behind it. -/
theorem words_append_blank (hc : isBlank c = true) (a b : List Char) :
    words (a ++ c :: b) = words a ++ words b :=
  words_of_leadingWord_append (leadingWord_append_blank hc a b)

/-- What is joined by spaces are the words. -/
theorem words_join {ws : List (List Char)} (h : ∀ v ∈ ws, NoBlank v ∧ v ≠ []) :
    words (join [' '] ws) = ws := by
  induction ws with
  | nil => rfl
  | cons v ws ih =>
    obtain ⟨⟨hv, hne⟩, hws⟩ := List.forall_mem_cons.1 h
    cases ws with
    | nil => exact words_of_noBlank hv hne
    | cons u us =>
      show words (v ++ [' '] ++ join [' '] (u :: us)) = _
      rw [List.append_assoc, List.singleton_append, words_append_blank (by decide),
        words_of_noBlank hv hne, ih hws, List.singleton_append]

/-- The words in front of a character that is no blank, but for the one that it belongs to. -/
theorem leadingWord_append_cons (hc : isBlank c = false) (a b : List Char) :
    (c ∉ (leadingWord (a ++ c :: b)).1 → (leadingWord (a ++ c :: b)).1 = (leadingWord a).1) ∧
    ∀ w ∈ (leadingWord (a ++ c :: b)).2, w ≠ [] → c ∉ w → w ∈ (leadingWord a).2 ∨ w ∈ words b := by
  induction a with
  | nil =>
    rw [List.nil_append, leadingWord_of_not_blank hc]
    refine ⟨fun h => absurd List.mem_cons_self h, fun w hw hne _ => .inr ?_⟩
    exact (mem_words_iff hne b).2 (.inr hw)
  | cons d a ih =>
    obtain ⟨hfront, hrest⟩ := ih
    cases hd : isBlank d with
    | true =>
      rw [List.cons_append, leadingWord_of_blank hd, leadingWord_of_blank hd]
      refine ⟨fun _ => rfl, fun w hw hne hcw => ?_⟩
      rw [mem_words_iff hne] at hw ⊢
      rcases hw with rfl | hw
      · exact .inl (.inl (hfront hcw))
      · exact (hrest w hw hne hcw).imp .inr id
    | false =>
      rw [List.cons_append, leadingWord_of_not_blank hd, leadingWord_of_not_blank hd]
      refine ⟨fun h => ?_, hrest⟩
      rw [hfront fun hmem => h (List.mem_cons_of_mem d hmem)]

/-- A word without the character stands in front of it or behind it. -/
theorem mem_words_append_cons (hc : isBlank c = false) (hne : w ≠ []) (hw : c ∉ w)
    (h : w ∈ words (a ++ c :: b)) : w ∈ words a ∨ w ∈ words b := by
  obtain ⟨hfront, hrest⟩ := leadingWord_append_cons hc a b
  rw [mem_words_iff hne] at h ⊢
  rcases h with rfl | h
  · exact .inl (.inl (hfront hw))
  · exact (hrest w h hne hw).imp .inr id

/-! ## Around one word -/

/-- What stands between two spaces and holds no blank is a word. -/
theorem mem_words_of_spaced (hw : NoBlank w) (hne : w ≠ []) (h : ' ' :: (w ++ [' ']) <:+: s) :
    w ∈ words s := by
  obtain ⟨front, back, rfl⟩ := h
  have hsplit : front ++ ' ' :: (w ++ [' ']) ++ back = front ++ ' ' :: (w ++ ' ' :: back) := by simp
  rw [hsplit, words_append_blank (by decide), words_append_blank (by decide),
    words_of_noBlank hw hne]
  simp

/-- A text is cut around a word that stands between the parts and in none of them. -/
theorem splitOn_word (hw : NoBlank w) (hne : w ≠ []) (ha : w ∉ words a) (hb : w ∉ words b) :
    splitOn (' ' :: (w ++ [' '])) (a ++ (' ' :: (w ++ [' ']) ++ b)) = [a, b] := by
  have hfirst : ¬(' ' :: (w ++ [' ']) <:+: a ++ (' ' :: (w ++ [' '])).dropLast) := by
    intro h
    -- the space at the end of the separator is not in the word, so it is the one behind `a`
    have hspace : ' ' ∉ w.reverse := by
      intro hmem
      have hblank := hw ' ' (List.mem_reverse.1 hmem)
      exact absurd hblank (by decide)
    have hreverse : ' ' :: (w.reverse ++ [' ']) <:+: w.reverse ++ ' ' :: a.reverse := by
      rw [← List.cons_append, List.dropLast_concat] at h
      simpa using List.reverse_infix.2 h
    have hfront : ' ' :: (w ++ [' ']) <:+: a ++ [' '] := by
      simpa using List.reverse_infix.2 (infix_of_infix_append hspace hreverse)
    have hmem := mem_words_of_spaced hw hne hfront
    rw [words_append_blank (by decide), List.mem_append] at hmem
    exact hmem.elim ha (by simp [words, leadingWord])
  rw [splitOn_of_cut? (List.cons_ne_nil _ _) (cut?_append_of_absent hfirst b),
    splitOn_of_absent (mt (mem_words_of_spaced hw hne) hb)]

/-! ## How often a character occurs -/

/-- The words hold every character that is no blank. -/
theorem count_flatten_words (hc : isBlank c = false) (s : List Char) :
    (words s).flatten.count c = s.count c := by
  induction s with
  | nil => rfl
  | cons d s ih =>
    cases hd : isBlank d with
    | true =>
      have hne : d ≠ c := by
        rintro rfl
        simp [hc] at hd
      rw [words_of_blank hd, ih, List.count_cons_of_ne hne]
    | false =>
      have hrest : ((leadingWord s).1 ++ (leadingWord s).2.flatten).count c = s.count c := by
        rw [← ih, words]
        cases hfront : (leadingWord s).1 <;> simp [hfront]
      rw [words_of_not_blank hd, List.flatten_cons, List.cons_append, List.count_cons, hrest,
        List.count_cons]

/-- Texts with the same words have as many of each character, blanks apart. -/
theorem count_eq_of_words_eq (h : words s = words a) (hc : isBlank c = false) :
    s.count c = a.count c := by
  rw [← count_flatten_words hc, h, count_flatten_words hc]

/-! ## Blanks at the ends -/

/-- Every character of the text is a blank. -/
def AllBlank (s : List Char) : Prop := ∀ c ∈ s, isBlank c = true

/-- A text is what trimming leaves of it between blanks. -/
theorem exists_trim_between (s : List Char) :
    ∃ front back, AllBlank front ∧ AllBlank back ∧ s = front ++ (trim s ++ back) := by
  have hrest := List.takeWhile_append_dropWhile (p := isBlank) (l := (s.dropWhile isBlank).reverse)
  refine ⟨s.takeWhile isBlank, ((s.dropWhile isBlank).reverse.takeWhile isBlank).reverse,
    List.all_eq_true.1 List.all_takeWhile,
    fun c hc => List.all_eq_true.1 List.all_takeWhile c (List.mem_reverse.1 hc), ?_⟩
  rw [trim, strip, ← List.reverse_append, hrest, List.reverse_reverse,
    List.takeWhile_append_dropWhile]

/-- A trimmed text stands in the whole one. -/
theorem infix_trim (s : List Char) : trim s <:+: s := by
  obtain ⟨front, back, -, -, hs⟩ := exists_trim_between s
  exact ⟨front, back, by rw [List.append_assoc, ← hs]⟩

/-- There is no blank at the end to be dropped twice. -/
theorem trimEnd_trimEnd (s : List Char) : trimEnd (trimEnd s) = trimEnd s := by
  induction s with
  | nil => rfl
  | cons c s ih =>
    rw [trimEnd_cons]
    split
    · rfl
    · next h => rw [trimEnd_cons, ih, if_neg h]

/-- There is no blank in front of a trimmed text. -/
theorem dropWhile_trim (s : List Char) : (trim s).dropWhile isBlank = trim s := by
  rw [trim_eq]
  cases hs : s.dropWhile isBlank with
  | nil => rfl
  | cons c t =>
    have hc : isBlank c = false := by
      have hhead := List.head?_dropWhile_not isBlank s
      rw [hs] at hhead
      simpa using hhead
    rw [trimEnd_cons, if_neg (by simp [hc]), List.dropWhile_cons_of_neg (by simp [hc])]

/-- There is nothing to trim off a trimmed text. -/
theorem trim_trim (s : List Char) : trim (trim s) = trim s := by
  rw [trim_eq (trim s), dropWhile_trim, trim_eq, trimEnd_trimEnd]

/-- What is left at the end is left when the front is trimmed as well. -/
theorem trimEnd_eq_append_trim (h : trim s ≠ []) : trimEnd s = s.takeWhile isBlank ++ trim s := by
  conv_lhs => rw [← List.takeWhile_append_dropWhile (p := isBlank) (l := s)]
  rw [trim_eq] at h ⊢
  exact trimEnd_append h _

/-- Between two texts that are not blank nothing is trimmed. -/
theorem trim_append (ha : trim a ≠ []) (hb : trim b ≠ []) (s : List Char) :
    trim (a ++ (s ++ b)) = a.dropWhile isBlank ++ (s ++ trimEnd b) := by
  have hfront : a.dropWhile isBlank ≠ [] := by
    intro hnil
    rw [trim_eq, hnil] at ha
    exact ha rfl
  have hback : trimEnd b ≠ [] := by
    rw [trimEnd_eq_append_trim hb]
    exact List.append_ne_nil_of_right_ne_nil _ hb
  rw [trim_eq, List.dropWhile_append, if_neg (by simpa using hfront), ← List.append_assoc,
    trimEnd_append hback, List.append_assoc]

/-- Blanks in front are dropped before or while trimming. -/
theorem trim_dropWhile (s : List Char) : trim (s.dropWhile isBlank) = trim s := by
  rw [trim_eq, List.dropWhile_idempotent, trim_eq]

/-- Blanks at the end are dropped before or while trimming. -/
theorem trim_trimEnd (h : trim s ≠ []) : trim (trimEnd s) = trim s := by
  rw [trimEnd_eq_append_trim h, trim_eq,
    List.dropWhile_append_of_pos (List.all_eq_true.1 List.all_takeWhile), ← trim_eq, trim_trim]

/-! ## Lower case -/

/-- The code points of the blanks. -/
def blankCodes : List Nat :=
  List.range' 0x9 5 ++ List.range' 0x1c 5 ++ [0x85, 0xa0, 0x1680] ++ List.range' 0x2000 11 ++
    [0x2028, 0x2029, 0x202f, 0x205f, 0x3000]

/-- The code of a blank is in the list. -/
theorem mem_blankCodes (h : isBlank c = true) : c.toNat ∈ blankCodes := by
  simp only [isBlank, Bool.or_eq_true, Bool.and_eq_true, decide_eq_true_eq, beq_iff_eq] at h
  simp only [blankCodes, List.mem_append, List.mem_range'_1, List.mem_cons, List.not_mem_nil]
  omega

/-- Lower case moves no blank, and no rule of it leads to one. -/
theorem lowerRules_avoid : bits [blankCodes] &&& bits lowerSources = 0 ∧
    bits (lowerRules.map CaseRule.images) &&& bits [blankCodes] = 0 := by
  decide +kernel

/-- A blank is its own lower case. -/
theorem lowerChar_of_isBlank (h : isBlank c = true) : lowerChar c = [c] :=
  lowerChar_eq_self (not_mem_of_bits lowerRules_avoid.1 (by simpa using mem_blankCodes h))

/-- Blanks are barriers. -/
theorem isBarrier_of_isBlank (h : isBlank c = true) : IsBarrier c := by
  have hcodes : ∀ n ∈ blankCodes, IsBarrier (Char.ofNat n) := by decide +kernel
  simpa using hcodes c.toNat (mem_blankCodes h)

/-- The code zero is no blank. -/
theorem zero_not_mem_blankCodes : 0 ∉ blankCodes := by decide

/-- A code outside the list is no blank. -/
theorem isBlank_ofNat {n : Nat} (h : n ∉ blankCodes) : isBlank (Char.ofNat n) = false := by
  rw [← Bool.not_eq_true]
  intro hblank
  have hcode := mem_blankCodes hblank
  rcases toNat_ofNat_cases n with hn | hn
  · rw [hn] at hcode
    exact h hcode
  · rw [hn] at hcode
    exact zero_not_mem_blankCodes hcode

/-- No other character becomes a blank in lower case. -/
theorem noBlank_lowerChar (hc : isBlank c = false) : NoBlank (lowerChar c) := by
  rw [lowerChar]
  split
  · next hascii =>
    have hletters : ∀ c : Char, c.toNat < 128 → isBlank c.toLower = isBlank c :=
      forall_ascii (by decide +kernel)
    exact List.forall_mem_singleton.2 ((hletters c hascii).trans hc)
  · split
    · decide
    · refine List.forall_mem_singleton.2 ?_
      rcases applyRules_cases lowerRules c.toNat with ⟨-, hstays⟩ | ⟨r, hr, happly⟩
      · rwa [hstays, Char.ofNat_toNat]
      · have himage := mem_flatten_images hr happly
        exact isBlank_ofNat fun h => not_mem_of_bits lowerRules_avoid.2 himage (by simpa using h)

/-- Lower case brings no blanks in, wherever the text stands. -/
theorem noBlank_lowerAfter (h : NoBlank s) (before : List Char) : NoBlank (lowerAfter before s) := by
  induction s generalizing before with
  | nil => exact h
  | cons c s ih =>
    rw [lowerAfter]
    refine List.forall_mem_append.2 ⟨?_, ih h.tail _⟩
    split
    · refine List.forall_mem_singleton.2 ?_
      split <;> decide
    · exact noBlank_lowerChar (h c List.mem_cons_self)

/-- Lower case brings no blanks in. -/
theorem noBlank_lower (h : NoBlank s) : NoBlank (lower s) := noBlank_lowerAfter h []

/-- **Words are put in lower case one by one.**  The induction is on the length of the text, which
a blank cuts in two. -/
theorem words_lower (s : List Char) : words (lower s) = (words s).map lower := by
  induction hlength : s.length using Nat.strongRecOn generalizing s with
  | ind n ih =>
    by_cases hs : NoBlank s
    · rcases eq_or_ne s [] with rfl | hne
      · rfl
      rw [words_of_noBlank hs hne, words_of_noBlank (noBlank_lower hs) (lower_ne_nil hne)]
      rfl
    · simp only [NoBlank, not_forall, Bool.not_eq_false] at hs
      obtain ⟨c, hmem, hc⟩ := hs
      obtain ⟨a, b, rfl⟩ := List.append_of_mem hmem
      rw [List.length_append, List.length_cons] at hlength
      rw [lower_append_cons (isBarrier_of_isBlank hc) (lowerChar_of_isBlank hc),
        words_append_blank hc, words_append_blank hc, ih a.length (by omega) a rfl,
        ih b.length (by omega) b rfl, List.map_append]

/-- Trimming changes no word in lower case. -/
theorem words_lower_trim (s : List Char) : words (lower (trim s)) = words (lower s) := by
  rw [words_lower, words_lower, words_trim]

end TaskQuery.Text
