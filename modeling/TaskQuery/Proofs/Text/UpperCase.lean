import TaskQuery.Proofs.Text.Words

/-!
# Upper case

Upper case goes character by character.  It keeps blanks and makes none, and what it leads to stays
where it is.

* `upperChar_eq_self`: only the characters in `upperSources` are moved.
* `upperChar_cases`: a character that is moved goes to `upperImages`, in which there are no sources
  and no blanks.
* `upper_trim`: it does not matter whether a text is trimmed before or after.
* `upper_upper`: a text in upper case is its own upper case.
-/

namespace TaskQuery.Text

variable {s : List Char} {c d : Char} {n : Nat}

/-! ## What upper case moves, and where to -/

/-- The small letters of ASCII. -/
def smallLetters : CaseRule := ⟨97, 122, 1, -32⟩

/-- The runs of the characters that become one other character. -/
def upperRuns : List CaseRule := smallLetters :: upperRules

/-- The characters that upper case moves. -/
def upperSources : List (List Nat) :=
  upperExpansions.map Prod.fst :: upperRuns.map CaseRule.points

/-- Where they go; NUL stands for what is no character. -/
def upperImages : List (List Nat) :=
  [0] :: (upperExpansions.map Prod.snd ++ upperRuns.map CaseRule.images)

/-- A small letter of ASCII goes to an image, and what is no small letter stays. -/
theorem toUpper_cases : ∀ c : Char, c.toNat < 128 → c.toUpper = c ∨
    c.toNat ∈ smallLetters.points ∧ c.toUpper.toNat ∈ smallLetters.images :=
  forall_ascii (by decide +kernel)

/-- What is not moved is its own upper case. -/
theorem upperChar_eq_self (h : c.toNat ∉ upperSources.flatten) : upperChar c = [c] := by
  rw [upperSources, upperRuns, List.map_cons, List.flatten_cons, List.flatten_cons,
    List.mem_append, List.mem_append, not_or, not_or] at h
  obtain ⟨hexpansions, hsmall, hrules⟩ := h
  have hlookup : upperExpansions.lookup c.toNat = none := by
    cases hfound : upperExpansions.lookup c.toNat with
    | none => rfl
    | some ns => exact absurd (List.mem_map_of_mem (mem_of_lookup hfound)) hexpansions
  rw [upperChar, hlookup]
  split
  · next hascii =>
    rcases toUpper_cases c hascii with hstays | ⟨hletter, -⟩
    · rw [hstays]
    · exact absurd hletter hsmall
  · rcases applyRules_cases upperRules c.toNat with ⟨-, hstays⟩ | ⟨r, hr, happly⟩
    · rw [hstays, Char.ofNat_toNat]
    · exact absurd (mem_flatten_points hr happly) hrules

/-- The images of the table are codes of characters. -/
theorem toNat_ofNat_mem_upperImages (h : n ∈ upperImages.flatten) :
    (Char.ofNat n).toNat ∈ upperImages.flatten := by
  rcases toNat_ofNat_cases n with hn | hn
  · rwa [hn]
  · rw [hn]
    exact List.mem_cons_self

/-- A character is its own upper case or goes to images. -/
theorem upperChar_cases (c : Char) :
    upperChar c = [c] ∨ ∀ d ∈ upperChar c, d.toNat ∈ upperImages.flatten := by
  have himages : ∀ n, n ∈ (upperExpansions.map Prod.snd).flatten ∨
      n ∈ smallLetters.images ∨ n ∈ (upperRules.map CaseRule.images).flatten →
        n ∈ upperImages.flatten := by
    intro n hn
    rw [upperImages, upperRuns, List.map_cons, List.flatten_cons, List.flatten_append,
      List.flatten_cons, List.mem_append, List.mem_append, List.mem_append]
    exact .inr hn
  rw [upperChar]
  split
  · next hascii =>
    rcases toUpper_cases c hascii with hstays | ⟨-, himage⟩
    · exact .inl (by rw [hstays])
    · exact .inr (List.forall_mem_singleton.2 (himages _ (.inr (.inl himage))))
  · split
    · next ns hlookup =>
      refine .inr (List.forall_mem_map.2 fun n hn => ?_)
      have hlist := List.mem_map_of_mem (f := Prod.snd) (mem_of_lookup hlookup)
      exact toNat_ofNat_mem_upperImages (himages n (.inl (List.mem_flatten_of_mem hlist hn)))
    · rcases applyRules_cases upperRules c.toNat with ⟨-, hstays⟩ | ⟨r, hr, happly⟩
      · exact .inl (by rw [hstays, Char.ofNat_toNat])
      · refine .inr (List.forall_mem_singleton.2 (toNat_ofNat_mem_upperImages ?_))
        exact himages _ (.inr (.inr (mem_flatten_images hr happly)))

/-- Neither blanks nor images are moved, and no image is a blank. -/
theorem upperImages_avoid : bits (blankCodes :: upperImages) &&& bits upperSources = 0 ∧
    bits upperImages &&& bits [blankCodes] = 0 := by
  decide +kernel

/-- Images are not moved. -/
theorem not_mem_upperSources (h : n ∈ upperImages.flatten) : n ∉ upperSources.flatten :=
  not_mem_of_bits upperImages_avoid.1 (List.mem_append_right blankCodes h)

/-- No character goes away in upper case. -/
theorem upperChar_ne_nil (c : Char) : upperChar c ≠ [] := by
  rw [upperChar]
  split
  · exact List.cons_ne_nil _ _
  · split
    · next ns hlookup =>
      have hsome : ∀ e ∈ upperExpansions, e.2 ≠ [] := by decide
      exact mt List.map_eq_nil_iff.1 (hsome _ (mem_of_lookup hlookup))
    · exact List.cons_ne_nil _ _

/-! ## Blanks -/

/-- A blank is its own upper case. -/
theorem upperChar_of_isBlank (h : isBlank c = true) : upperChar c = [c] :=
  upperChar_eq_self
    (not_mem_of_bits upperImages_avoid.1 (List.mem_append_left _ (mem_blankCodes h)))

/-- No other character becomes a blank in upper case. -/
theorem noBlank_upperChar (hc : isBlank c = false) : NoBlank (upperChar c) := by
  rcases upperChar_cases c with hstays | himages
  · rw [hstays]
    exact List.forall_mem_singleton.2 hc
  · intro d hd
    have hblanks : d.toNat ∉ [blankCodes].flatten :=
      not_mem_of_bits upperImages_avoid.2 (himages d hd)
    rw [List.flatten_singleton] at hblanks
    rw [← Char.ofNat_toNat d]
    exact isBlank_ofNat hblanks

/-- Upper case is taken character by character. -/
theorem upper_cons (c : Char) (s : List Char) : upper (c :: s) = upperChar c ++ upper s :=
  List.flatMap_cons

/-- Only the empty text is empty in upper case. -/
theorem upper_eq_nil_iff : upper s = [] ↔ s = [] := by
  constructor
  · intro h
    cases s with
    | nil => rfl
    | cons c s =>
      rw [upper_cons] at h
      exact absurd (List.append_eq_nil_iff.1 h).1 (upperChar_ne_nil c)
  · rintro rfl
    rfl

/-- Blanks in front are dropped before or after upper case is taken. -/
theorem dropWhile_upper (s : List Char) :
    (upper s).dropWhile isBlank = upper (s.dropWhile isBlank) := by
  induction s with
  | nil => rfl
  | cons c s ih =>
    rw [upper_cons]
    cases hc : isBlank c with
    | true =>
      rw [upperChar_of_isBlank hc, List.singleton_append, List.dropWhile_cons_of_pos hc,
        List.dropWhile_cons_of_pos hc, ih]
    | false =>
      obtain ⟨d, ds, hupper⟩ := List.exists_cons_of_ne_nil (upperChar_ne_nil c)
      have hd : isBlank d = false := noBlank_upperChar hc d (by simp [hupper])
      rw [List.dropWhile_cons_of_neg (by simp [hc]), upper_cons, hupper, List.cons_append,
        List.dropWhile_cons_of_neg (by simp [hd])]

/-- Blanks at the end are dropped before or after upper case is taken. -/
theorem trimEnd_upper (s : List Char) : trimEnd (upper s) = upper (trimEnd s) := by
  induction s with
  | nil => rfl
  | cons c s ih =>
    rw [upper_cons, trimEnd_cons]
    cases hc : isBlank c with
    | true =>
      rw [upperChar_of_isBlank hc, List.singleton_append, trimEnd_cons, ih]
      simp only [upper_eq_nil_iff, hc]
      split
      · rfl
      · rw [upper_cons, upperChar_of_isBlank hc, List.singleton_append]
    | false =>
      rw [trimEnd_append_left (noBlank_upperChar hc), ih, if_neg (by simp), upper_cons]

/-- **It does not matter whether a text is trimmed before or after it is put in upper case.** -/
theorem upper_trim (s : List Char) : upper (trim s) = trim (upper s) := by
  rw [trim_eq, trim_eq, dropWhile_upper, trimEnd_upper]

/-! ## Upper case again -/

/-- What upper case leads to is its own upper case. -/
theorem upperChar_of_mem_upperChar (h : d ∈ upperChar c) : upperChar d = [d] := by
  rcases upperChar_cases c with hstays | himages
  · rw [hstays] at h
    obtain rfl := List.mem_singleton.1 h
    exact hstays
  · exact upperChar_eq_self (not_mem_upperSources (himages d h))

/-- **A text in upper case is its own upper case.** -/
theorem upper_upper (s : List Char) : upper (upper s) = upper s := by
  have hchar : ∀ c, (upperChar c).flatMap upperChar = upperChar c := by
    intro c
    rw [List.flatMap_congr fun d hd => upperChar_of_mem_upperChar hd, List.flatMap_singleton']
  unfold upper
  rw [List.flatMap_assoc, funext hchar]

end TaskQuery.Text
