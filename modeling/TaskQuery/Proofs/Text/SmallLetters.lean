import TaskQuery.Proofs.Text.Surroundings
import TaskQuery.Text.Word

/-!
# The case of ASCII letters

A text with its ASCII capitals made small is another text with the same letters.  What is asked of
texts without regard to letter case is the same of both: blanks, signs and word characters stay what
they are, and both have the same lower case, even next to a capital sigma.

* `small`: a text with its ASCII capitals made small; `SameLetters` is said of texts that are then
  the same.
* `apply_toLower`: what does not tell a capital of ASCII from its small letter does not tell any
  character from it.
* `lower_small`, `upper_small`: the lower case and the upper case are those of the text itself.
* `strip_small`, `splitOn_small`: the parts of the text are made small one by one.
* `equalsIgnoringCase_toLower`: neither do letters count as equal otherwise.
-/

namespace TaskQuery.Text

variable {s t : List Char} {c d : Char}

/-! ## Characters -/

/-- Outside ASCII no letter is made small. -/
theorem toLower_of_le (h : 128 ≤ c.toNat) : c.toLower = c := by
  refine dif_neg ?_
  rintro ⟨-, hlast⟩
  rw [UInt32.le_iff_toNat_le] at hlast
  change c.toNat ≤ 90 at hlast
  omega

/-- What is the same of the capitals of ASCII and their small letters is the same of every character
and its small letter. -/
theorem apply_toLower {α : Type} {f : Char → α}
    (h : ∀ n < 128, f (Char.ofNat n).toLower = f (Char.ofNat n)) (c : Char) : f c.toLower = f c := by
  by_cases hc : c.toNat < 128
  · exact forall_ascii (P := fun c => f c.toLower = f c) h c hc
  · rw [toLower_of_le (Nat.le_of_not_lt hc)]

/-- Letter case does not decide what belongs to a word. -/
@[simp] theorem isWord_toLower (c : Char) : isWord c.toLower = isWord c :=
  apply_toLower (by decide) c

/-- A small letter has the lower case of the letter. -/
@[simp] theorem lowerChar_toLower (c : Char) : lowerChar c.toLower = lowerChar c :=
  apply_toLower (by decide) c

/-- A small letter has the upper case of the letter. -/
@[simp] theorem upperChar_toLower (c : Char) : upperChar c.toLower = upperChar c :=
  apply_toLower (by decide) c

/-- Letter case does not decide what is blank. -/
@[simp] theorem isBlank_toLower (c : Char) : isBlank c.toLower = isBlank c :=
  apply_toLower (by decide) c

/-- Only a sign itself is made that sign. -/
theorem toLower_eq_iff (hd : IsSign d) : c.toLower = d ↔ c = d := by
  constructor
  · rintro rfl
    exact (eq_of_isSign_toLower hd).symm
  · rintro rfl
    exact toLower_of_isSign hd

/-- A character without case stays as it is. -/
theorem toLower_eq_of_hasCase (h : hasCase c = false) : c.toLower = c := by
  have hletters : ∀ c : Char, c.toNat < 128 → hasCase c = false → c.toLower = c :=
    forall_ascii (by decide)
  by_cases hc : c.toNat < 128
  · exact hletters c hc h
  · exact toLower_of_le (Nat.le_of_not_lt hc)

/-- A letter keeps being one when it is made small. -/
@[simp] theorem hasCase_toLower (c : Char) : hasCase c.toLower = hasCase c :=
  apply_toLower (by decide) c

/-- Which letters count as equal does not depend on the case of ASCII letters. -/
@[simp] theorem equalsIgnoringCase_toLower (c d : Char) :
    equalsIgnoringCase c.toLower d.toLower = equalsIgnoringCase c d := by
  have hletter : ∀ c : Char, lowerLetter c.toLower = lowerLetter c := apply_toLower (by decide)
  rw [equalsIgnoringCase, equalsIgnoringCase, hasCase_toLower, hletter, hletter]
  cases hcase : hasCase c with
  | true => rfl
  | false =>
    rw [if_neg Bool.false_ne_true, if_neg Bool.false_ne_true, toLower_eq_of_hasCase hcase,
      Bool.eq_iff_iff, beq_iff_eq, beq_iff_eq]
    constructor
    · rintro rfl
      exact toLower_eq_of_hasCase (by rwa [hasCase_toLower] at hcase)
    · rintro rfl
      exact (toLower_eq_of_hasCase hcase).symm

/-- Whether a character is a sign does not depend on letter case. -/
theorem toLower_eq_sign (hd : IsSign d) (c : Char) : decide (c.toLower = d) = decide (c = d) := by
  simp only [toLower_eq_iff hd]

/-! ## Texts -/

/-- A text with its ASCII capitals made small. -/
def small (s : List Char) : List Char := s.map Char.toLower

/-- Texts that differ in the case of ASCII letters only. -/
def SameLetters (s t : List Char) : Prop := small s = small t

/-- Whether two texts have the same letters can be checked. -/
instance (s t : List Char) : Decidable (SameLetters s t) := inferInstanceAs (Decidable (_ = _))

/-- Texts with the same letters have the same small letters. -/
theorem SameLetters.small_eq (h : SameLetters s t) : small s = small t := h

/-- What is the same of a text and the text in small letters is the same of texts with the same
letters. -/
theorem SameLetters.congr {α : Type} {f : List Char → α} (hf : ∀ s, f (small s) = f s)
    (h : SameLetters s t) : f s = f t := by
  rw [← hf s, ← hf t, h.small_eq]

/-- Letters are made small one by one. -/
theorem small_cons (c : Char) (s : List Char) : small (c :: s) = c.toLower :: small s := rfl

/-- Making letters small takes none away. -/
theorem small_eq_nil_iff : small s = [] ↔ s = [] := List.map_eq_nil_iff

/-- Of two texts with the same letters both are empty or none. -/
theorem SameLetters.eq_nil_iff (h : SameLetters s t) : s = [] ↔ t = [] := by
  rw [← small_eq_nil_iff, ← small_eq_nil_iff (s := t), h.small_eq]

/-- Small letters face a letter where the text does. -/
theorem facesCased_small (s : List Char) : facesCased (small s) = facesCased s := by
  have hignorable : ∀ c : Char, caseIgnorablePoints.contains c.toLower =
      caseIgnorablePoints.contains c := apply_toLower (by decide)
  have hcased : ∀ c : Char, casedPoints.contains c.toLower = casedPoints.contains c :=
    apply_toLower (by decide)
  have hfind : (small s).find? (!caseIgnorablePoints.contains ·) =
      (s.find? (!caseIgnorablePoints.contains ·)).map Char.toLower := by
    rw [small, List.find?_map]
    simp only [Function.comp_def, hignorable]
  rw [facesCased, facesCased, hfind]
  cases s.find? (!caseIgnorablePoints.contains ·) with
  | none => rfl
  | some c => exact hcased c

/-- No other character is made a capital sigma. -/
theorem toLower_eq_sigma_iff : c.toLower = 'Σ' ↔ c = 'Σ' := by
  have h := apply_toLower (f := fun c => decide (c = 'Σ')) (by decide) c
  simpa using h

/-- Small letters have the lower case of the text, wherever they stand. -/
theorem lowerAfter_small (before s : List Char) :
    lowerAfter (small before) (small s) = lowerAfter before s := by
  induction s generalizing before with
  | nil => rfl
  | cons c s ih =>
    have hrest : lowerAfter (c.toLower :: small before) (small s) = lowerAfter (c :: before) s :=
      ih (c :: before)
    have hfinal : isFinalSigma (small before) (small s) = isFinalSigma before s := by
      rw [isFinalSigma, isFinalSigma, facesCased_small, facesCased_small]
    rw [small_cons, lowerAfter, lowerAfter, hrest, hfinal]
    simp only [toLower_eq_sigma_iff, lowerChar_toLower]

/-- A text and the text in small letters have the same lower case. -/
@[simp] theorem lower_small (s : List Char) : lower (small s) = lower s := lowerAfter_small [] s

/-- Small letters have the upper case of the text. -/
@[simp] theorem upper_small (s : List Char) : upper (small s) = upper s := by
  rw [upper, upper, small, List.flatMap_map]
  simp only [upperChar_toLower]

/-- What is dropped in front does not depend on letter case. -/
theorem dropWhile_small {p : Char → Bool} (hp : ∀ c : Char, p c.toLower = p c) (s : List Char) :
    (small s).dropWhile p = small (s.dropWhile p) := by
  have hcomp : p ∘ Char.toLower = p := funext hp
  rw [small, List.dropWhile_map, hcomp]
  rfl

/-- What is stripped at the ends does not depend on letter case. -/
theorem strip_small {p : Char → Bool} (hp : ∀ c : Char, p c.toLower = p c) (s : List Char) :
    strip p (small s) = small (strip p s) := by
  have hreverse : ∀ t, (small t).reverse = small t.reverse := fun t => List.map_reverse.symm
  rw [strip, strip, dropWhile_small hp, hreverse, dropWhile_small hp, hreverse]

/-- Texts with the same letters keep them when the same is dropped in front. -/
theorem SameLetters.dropWhile {p : Char → Bool} (hp : ∀ c : Char, p c.toLower = p c)
    (h : SameLetters s t) : SameLetters (s.dropWhile p) (t.dropWhile p) := by
  rw [SameLetters, ← dropWhile_small hp, ← dropWhile_small hp, h.small_eq]

/-- Texts with the same letters keep them when the same is stripped. -/
theorem SameLetters.strip {p : Char → Bool} (hp : ∀ c : Char, p c.toLower = p c)
    (h : SameLetters s t) : SameLetters (strip p s) (strip p t) := by
  rw [SameLetters, ← strip_small hp, ← strip_small hp, h.small_eq]

/-- The parts between slashes are made small one by one. -/
theorem splitOn_small (s : List Char) : splitOn ['/'] (small s) = (splitOn ['/'] s).map small := by
  apply splitOn_map
  · intro t ht hmem
    obtain ⟨c, hc, heq⟩ := List.mem_map.1 hmem
    rw [toLower_eq_iff (by decide)] at heq
    exact ht (heq ▸ hc)
  · intro s t
    rw [small, List.map_append, List.map_cons, toLower_of_isSign (by decide)]
    rfl

end TaskQuery.Text
