import Mathlib.Data.List.Infix
import TaskQuery.Proofs.Text.Plain

/-!
# Runs of blanks

Squeezing a text drops the blanks at its ends and makes every other run of blanks one space.
`squash` does the second of the two alone, so that it goes by parts.

* `squash_append`: a text without blanks between two others is squashed with each of them alone.
* `squeeze_eq_trim_squash`: squeezing is squashing and then trimming.
* `squeeze_append`, `squeeze_quotes`: squeezing what stands around a text without blanks.
* `words_squash`, `words_squeeze`: none of this changes the words.
* `infix_iff_of_words_eq`, `mem_iff_of_words_eq`: what has no blank occurs in a text by its words.
-/

namespace TaskQuery.Text

variable {s t u : List Char} {c : Char}

/-- Every run of blanks as one space. -/
def squash : List Char → List Char
  | [] => []
  | c :: cs =>
    if isBlank c = false then c :: squash cs
    else if cs.head?.any isBlank then squash cs
    else ' ' :: squash cs

/-- Words with a space in front of each. -/
def spaced (ws : List (List Char)) : List Char := ws.flatMap fun w => ' ' :: w

/-! ## One character more -/

/-- A blank ends the leading word. -/
theorem leadingWord_of_blank (h : isBlank c = true) (s : List Char) :
    leadingWord (c :: s) = ([], words s) := by
  simp [words, leadingWord, h]

/-- Any other character goes to the leading word. -/
theorem leadingWord_of_not_blank (h : isBlank c = false) (s : List Char) :
    leadingWord (c :: s) = (c :: (leadingWord s).1, (leadingWord s).2) := by
  simp [leadingWord, h]

/-- A blank in front does not change the words. -/
theorem words_of_blank (h : isBlank c = true) (s : List Char) : words (c :: s) = words s := by
  simp [words, leadingWord, h]

/-- Any other character begins a word. -/
theorem words_of_not_blank (h : isBlank c = false) (s : List Char) :
    words (c :: s) = (c :: (leadingWord s).1) :: (leadingWord s).2 := by
  simp [words, leadingWord, h]

/-- What is no blank stays. -/
theorem squash_of_not_blank (h : isBlank c = false) (s : List Char) :
    squash (c :: s) = c :: squash s := by
  rw [squash, if_pos h]

/-- A character stays in front of what stays, and by itself if it is no blank. -/
theorem trimEnd_cons (c : Char) (s : List Char) :
    trimEnd (c :: s) = if trimEnd s = [] ∧ isBlank c = true then [] else c :: trimEnd s := by
  simp only [trimEnd, List.reverse_cons, List.dropWhile_append]
  by_cases hs : s.reverse.dropWhile isBlank = []
  · cases hc : isBlank c <;> simp [hs, hc]
  · simp [hs]

/-- A text is trimmed at its front and at its end. -/
theorem trim_eq (s : List Char) : trim s = trimEnd (s.dropWhile isBlank) := rfl

/-- Joined words are the first one and the others, each behind a space. -/
theorem join_space (w : List Char) (ws : List (List Char)) : join [' '] (w :: ws) = w ++ spaced ws := by
  induction ws generalizing w with
  | nil => simp [join, spaced]
  | cons v ws ih => simp [join, ih, spaced]

/-! ## Squashing by parts -/

/-- A text without blanks in front stays. -/
theorem squash_append_left (hu : NoBlank u) (s : List Char) : squash (u ++ s) = u ++ squash s := by
  induction u with
  | nil => rfl
  | cons c u ih =>
    rw [List.cons_append, squash_of_not_blank (hu c List.mem_cons_self), ih hu.tail]
    rfl

/-- A text without blanks between two others is squashed with each of them alone. -/
theorem squash_append (hu : NoBlank u) (hne : u ≠ []) (s t : List Char) :
    squash (s ++ (u ++ t)) = squash s ++ (u ++ squash t) := by
  obtain ⟨c, u, rfl⟩ := List.exists_cons_of_ne_nil hne
  have hc : isBlank c = false := hu c List.mem_cons_self
  induction s with
  | nil => exact squash_append_left hu t
  | cons d s ih =>
    have hnext : (s ++ (c :: u ++ t)).head?.any isBlank = s.head?.any isBlank := by
      cases s <;> simp [hc]
    rw [List.cons_append, squash, squash, ih, hnext]
    split
    · rfl
    · split <;> rfl

/-- Squashed and without the blanks at the end: the first word, and the others behind spaces. -/
theorem trimEnd_squash (s : List Char) :
    trimEnd (squash s) = (leadingWord s).1 ++ spaced (leadingWord s).2 := by
  induction s with
  | nil => rfl
  | cons c s ih =>
    cases hc : isBlank c with
    | false =>
      rw [squash_of_not_blank hc, trimEnd_cons, if_neg (by simp [hc]), ih,
        leadingWord_of_not_blank hc]
      rfl
    | true =>
      rw [squash, if_neg (by simp [hc]), leadingWord_of_blank hc]
      cases s with
      | nil => rfl
      | cons d s =>
        cases hd : isBlank d with
        | true =>
          rw [if_pos (by simp [hd]), ih, leadingWord_of_blank hd, words_of_blank hd]
        | false =>
          rw [leadingWord_of_not_blank hd] at ih
          rw [if_neg (by simp [hd]), trimEnd_cons, ih, if_neg (by simp), words_of_not_blank hd]
          simp [spaced]

/-- **Squeezing is squashing and then trimming.** -/
theorem squeeze_eq_trim_squash (s : List Char) : squeeze s = trim (squash s) := by
  induction s with
  | nil => rfl
  | cons c s ih =>
    cases hc : isBlank c with
    | false =>
      have hdrop : (squash (c :: s)).dropWhile isBlank = squash (c :: s) := by
        rw [squash_of_not_blank hc, List.dropWhile_cons_of_neg (by simp [hc])]
      rw [trim_eq, hdrop, trimEnd_squash, squeeze, words_of_not_blank hc, join_space,
        leadingWord_of_not_blank hc]
    | true =>
      have hwords : squeeze (c :: s) = squeeze s := by
        rw [squeeze, words_of_blank hc, squeeze]
      rw [hwords, ih, squash, if_neg (by simp [hc])]
      split
      · rfl
      · rw [trim_eq, trim_eq, List.dropWhile_cons_of_pos (by decide)]

/-! ## Squeezing by parts -/

/-- Where something stays at the end, all before it stays. -/
theorem trimEnd_append (h : trimEnd t ≠ []) (s : List Char) : trimEnd (s ++ t) = s ++ trimEnd t := by
  induction s with
  | nil => rfl
  | cons c s ih => rw [List.cons_append, trimEnd_cons, ih, if_neg (by simp [h]), List.cons_append]

/-- A text without blanks in front of blanks stays. -/
theorem trimEnd_append_left (hu : NoBlank u) (t : List Char) : trimEnd (u ++ t) = u ++ trimEnd t := by
  induction u with
  | nil => rfl
  | cons c u ih =>
    rw [List.cons_append, trimEnd_cons, ih hu.tail, if_neg (by simp [hu c List.mem_cons_self])]
    rfl

/-- Dropping blanks stops at what is no blank. -/
theorem dropWhile_append_of_not_blank (hc : isBlank c = false) (s t : List Char) :
    (s ++ c :: t).dropWhile isBlank = s.dropWhile isBlank ++ c :: t := by
  induction s with
  | nil => rw [List.nil_append, List.dropWhile_cons_of_neg (by simp [hc])]; rfl
  | cons d s ih =>
    cases hd : isBlank d with
    | true => rw [List.cons_append, List.dropWhile_cons_of_pos hd, ih, List.dropWhile_cons_of_pos hd]
    | false =>
      rw [List.cons_append, List.dropWhile_cons_of_neg (by simp [hd]),
        List.dropWhile_cons_of_neg (by simp [hd])]
      rfl

/-- Around a text without blanks, squeezing drops blanks on the far sides only. -/
theorem squeeze_append (hu : NoBlank u) (hne : u ≠ []) (s t : List Char) :
    squeeze (s ++ (u ++ t)) =
      (squash s).dropWhile isBlank ++ (u ++ trimEnd (squash t)) := by
  rw [squeeze_eq_trim_squash, squash_append hu hne, trim_eq]
  obtain ⟨c, v, rfl⟩ := List.exists_cons_of_ne_nil hne
  rw [List.cons_append, dropWhile_append_of_not_blank (hu c List.mem_cons_self),
    ← List.cons_append, trimEnd_append _ _, trimEnd_append_left hu]
  rw [trimEnd_append_left hu]
  simp

/-- Inside double quotes no blanks are dropped. -/
theorem squeeze_quotes (s : List Char) : squeeze ('"' :: (s ++ ['"'])) = '"' :: (squash s ++ ['"']) := by
  have hquote : NoBlank ['"'] := by simp [NoBlank, isBlank]
  have h := squeeze_append hquote (List.cons_ne_nil _ _) ('"' :: s) []
  rwa [List.append_nil, squash_of_not_blank (by decide), List.dropWhile_cons_of_neg (by decide)] at h

/-! ## The words stay -/

/-- Squashing blanks does not change the leading word. -/
theorem leadingWord_squash (s : List Char) : leadingWord (squash s) = leadingWord s := by
  induction s with
  | nil => rfl
  | cons c s ih =>
    cases hc : isBlank c with
    | false => rw [squash_of_not_blank hc, leadingWord_of_not_blank hc, leadingWord_of_not_blank hc, ih]
    | true =>
      have hwords : words (squash s) = words s := by rw [words, ih, words]
      rw [squash, if_neg (by simp [hc]), leadingWord_of_blank hc]
      split
      · next hnext =>
        cases s with
        | nil => simp at hnext
        | cons d s =>
          have hd : isBlank d = true := by simpa using hnext
          rw [ih, leadingWord_of_blank hd, words_of_blank hd]
      · rw [leadingWord_of_blank (by decide), hwords]

/-- Squashing keeps the words. -/
theorem words_squash (s : List Char) : words (squash s) = words s := by
  rw [words, leadingWord_squash, words]

/-- Blanks in front do not change the words. -/
theorem words_dropWhile (s : List Char) : words (s.dropWhile isBlank) = words s := by
  induction s with
  | nil => rfl
  | cons c s ih =>
    cases hc : isBlank c with
    | true => rw [List.dropWhile_cons_of_pos hc, ih, words_of_blank hc]
    | false => rw [List.dropWhile_cons_of_neg (by simp [hc])]

/-- Blanks at the end do not change the leading word. -/
theorem leadingWord_trimEnd (s : List Char) : leadingWord (trimEnd s) = leadingWord s := by
  induction s with
  | nil => rfl
  | cons c s ih =>
    rw [trimEnd_cons]
    split
    · next h =>
      have hs : words s = [] := by rw [words, ← ih, h.1]; rfl
      rw [leadingWord_of_blank h.2, hs]
      rfl
    · cases hc : isBlank c with
      | true =>
        have hwords : words (trimEnd s) = words s := by rw [words, ih, words]
        rw [leadingWord_of_blank hc, leadingWord_of_blank hc, hwords]
      | false => rw [leadingWord_of_not_blank hc, leadingWord_of_not_blank hc, ih]

/-- Blanks at the end do not change the words. -/
theorem words_trimEnd (s : List Char) : words (trimEnd s) = words s := by
  rw [words, leadingWord_trimEnd, words]

/-- Trimming does not change the words. -/
theorem words_trim (s : List Char) : words (trim s) = words s := by
  rw [trim_eq, words_trimEnd, words_dropWhile]

/-- Squeezing keeps the words. -/
theorem words_squeeze (s : List Char) : words (squeeze s) = words s := by
  rw [squeeze_eq_trim_squash, words_trim, words_squash]

/-! ## What has no blank occurs by words -/

/-- A text without blanks stands in front if it does in the leading word. -/
theorem prefix_iff_prefix_leadingWord (hu : NoBlank u) (s : List Char) :
    u <+: s ↔ u <+: (leadingWord s).1 := by
  induction u generalizing s with
  | nil => simp
  | cons c u ih =>
    cases s with
    | nil => simp [leadingWord]
    | cons d s =>
      have hc : isBlank c = false := hu c List.mem_cons_self
      cases hd : isBlank d with
      | true =>
        have hne : c ≠ d := by
          rintro rfl
          simp [hc] at hd
        simp [leadingWord_of_blank hd, List.cons_prefix_cons, hne]
      | false =>
        rw [leadingWord_of_not_blank hd, List.cons_prefix_cons, List.cons_prefix_cons, ih hu.tail]

/-- Some word satisfies `P`: the first one, if there is one, or one of the others. -/
theorem exists_mem_words_iff {P : List Char → Prop} (h : ¬P []) (s : List Char) :
    (∃ w ∈ words s, P w) ↔ P (leadingWord s).1 ∨ ∃ w ∈ (leadingWord s).2, P w := by
  rw [words]
  obtain ⟨front, rest⟩ := leadingWord s
  cases front <;> simp [h]

/-- A part without blanks lies in one of the words. -/
theorem infix_iff_exists_words (hu : NoBlank u) (hne : u ≠ []) (s : List Char) :
    u <:+: s ↔ ∃ w ∈ words s, u <:+: w := by
  have hnil : ¬u <:+: [] := by simpa using hne
  rw [exists_mem_words_iff hnil]
  induction s with
  | nil => simp [leadingWord, hne]
  | cons c s ih =>
    rw [List.infix_cons_iff, prefix_iff_prefix_leadingWord hu]
    refine (or_congr Iff.rfl ih).trans ?_
    cases hc : isBlank c with
    | true => simp [leadingWord_of_blank hc, exists_mem_words_iff hnil, hne]
    | false => rw [leadingWord_of_not_blank hc, List.infix_cons_iff, or_assoc]

/-- Texts with the same words have the same parts without blanks. -/
theorem infix_iff_of_words_eq (h : words s = words t) (hu : NoBlank u) (hne : u ≠ []) :
    u <:+: s ↔ u <:+: t := by
  rw [infix_iff_exists_words hu hne, infix_iff_exists_words hu hne, h]

/-- A character that is no blank lies in one of the words. -/
theorem mem_iff_exists_words (hc : isBlank c = false) (s : List Char) :
    c ∈ s ↔ ∃ w ∈ words s, c ∈ w := by
  have hone : NoBlank [c] := by simpa [NoBlank] using hc
  rw [← List.singleton_infix_iff, infix_iff_exists_words hone (List.cons_ne_nil _ _)]
  simp only [List.singleton_infix_iff]

/-- Texts with the same words have the same characters, blanks apart. -/
theorem mem_iff_of_words_eq (h : words s = words t) (hc : isBlank c = false) : c ∈ s ↔ c ∈ t := by
  rw [mem_iff_exists_words hc, mem_iff_exists_words hc, h]

end TaskQuery.Text
