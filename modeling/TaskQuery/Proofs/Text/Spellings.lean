import Mathlib.Data.List.Forall2
import TaskQuery.Proofs.Text.Surroundings

/-!
# Letters with several spellings

Two characters that count as equal without regard to letter case need not have the same lower case:
`s` and the long `ſ` are one letter, but each is its own lower case.  Most letters have one spelling
only, and texts of such letters that are equal without regard to case have the same lower case.

* `SameLower`: two characters have the same lower case wherever they stand.
* `lower_infix_of_sameLower`: a part of a text with the same lower case, character by character, is
  found in the lower case of the text.
* `HasOneSpelling`, `hasOneSpelling_iff`: the letters that have further spellings are those of the
  table.
* `not_lower_infix_of_isSpelling`: a text with one of its characters in another spelling does not
  hold the text in lower case any more.
-/

namespace TaskQuery.Text

variable {s t a b : List Char} {c d : Char}

/-- Two characters have the same lower case wherever they stand: neither is a capital sigma, whose
form depends on its surroundings. -/
def SameLower (c d : Char) : Prop := c ≠ 'Σ' ∧ d ≠ 'Σ' ∧ lowerChar d = lowerChar c

/-- Whether two characters have the same lower case can be checked. -/
instance (c d : Char) : Decidable (SameLower c d) := inferInstanceAs (Decidable (_ ∧ _))

/-- Texts of characters with the same lower case have it too. -/
theorem lower_eq_of_sameLower (h : List.Forall₂ SameLower s t) :
    'Σ' ∉ s ∧ 'Σ' ∉ t ∧ t.flatMap lowerChar = s.flatMap lowerChar := by
  induction h with
  | nil => simp
  | cons hcd _ ih =>
    obtain ⟨hc, hd, hlower⟩ := hcd
    obtain ⟨hs, ht, hrest⟩ := ih
    refine ⟨?_, ?_, ?_⟩
    · exact List.not_mem_cons_of_ne_of_not_mem (Ne.symm hc) hs
    · exact List.not_mem_cons_of_ne_of_not_mem (Ne.symm hd) ht
    · rw [List.flatMap_cons, List.flatMap_cons, hlower, hrest]

/-- A text is found in lower case where a text of the same lower case stands. -/
theorem lower_infix_of_sameLower (h : List.Forall₂ SameLower s t) (before after : List Char) :
    lower s <:+: lower (before ++ (t ++ after)) := by
  obtain ⟨hs, ht, hlower⟩ := lower_eq_of_sameLower h
  have hst : lower s = lower t := by
    rw [lower_of_not_mem hs, lower_of_not_mem ht, hlower]
  rw [hst]
  refine lower_infix_of_isSteady (isSteady_of_not_mem ht) ⟨before, after, ?_⟩
  rw [List.append_assoc]

/-! ## The letters of the table -/

/-- The lower case of a character is one letter, but for the dotted capital. -/
theorem lowerChar_of_ne (h : c ≠ 'İ') : lowerChar c = [lowerLetter c] := by
  have hone : ∃ d, lowerChar c = [d] := by
    rw [lowerChar, if_neg h]
    split
    · exact ⟨_, rfl⟩
    · exact ⟨_, rfl⟩
  obtain ⟨d, hd⟩ := hone
  rw [lowerLetter, hd]
  rfl

/-- Characters that count as equal are the same, or the second is in lower case the letter of the
first or one of its further spellings. -/
theorem equalsIgnoringCase_iff :
    equalsIgnoringCase c d = true ↔
      (hasCase c = false ∧ c = d) ∨ (hasCase c = true ∧ (lowerLetter d = lowerLetter c ∨
        (lowerLetter d).toNat ∈ (caseVariants.lookup (lowerLetter c).toNat).getD [])) := by
  rw [equalsIgnoringCase]
  cases hasCase c <;> simp [Char.toNat_inj]

/-- Every character that counts as equal to `c` has the same lower case. -/
def HasOneSpelling (c : Char) : Prop := ∀ d, equalsIgnoringCase c d = true → SameLower c d

/-- A code point of a character that is its own lower case and no capital sigma. -/
def IsSmallPoint (n : Nat) : Prop :=
  (Char.ofNat n).toNat = n ∧ Char.ofNat n ≠ 'Σ' ∧ lowerChar (Char.ofNat n) = [Char.ofNat n]

/-- Whether a code point is such a one can be checked. -/
instance (n : Nat) : Decidable (IsSmallPoint n) := inferInstanceAs (Decidable (_ ∧ _))

/-- A letter of the table and the first further spelling of it. -/
def firstSpellings (e : Nat × List Nat) : List Nat := e.1 :: e.2.take 1

/-- They are not moved by lower case. -/
theorem firstSpellings_avoid :
    bits (caseVariants.map firstSpellings) &&& bits lowerSources = 0 := by
  decide +kernel

/-- The first spellings of the table are small points. -/
theorem isSmallPoint_of_mem_firstSpellings {n : Nat} {e : Nat × List Nat} (he : e ∈ caseVariants)
    (hn : n ∈ firstSpellings e) : IsSmallPoint n := by
  have hvalid : ∀ e ∈ caseVariants, ∀ n ∈ firstSpellings e, (Char.ofNat n).toNat = n := by
    decide
  have hstays : n ∉ lowerSources.flatten :=
    not_mem_of_bits firstSpellings_avoid (List.mem_flatten_of_mem (List.mem_map_of_mem he) hn)
  rw [← hvalid e he n hn] at hstays
  refine ⟨hvalid e he n hn, ?_, lowerChar_eq_self hstays⟩
  intro hsigma
  rw [hsigma] at hstays
  exact hstays (by decide)

/-- Each letter of the table, and the first further spelling of it, are their own lower case. -/
theorem isSmallPoint_of_mem_caseVariants {e : Nat × List Nat} (he : e ∈ caseVariants) :
    IsSmallPoint e.1 ∧ ∃ v ∈ e.2, IsSmallPoint v ∧ v ≠ e.1 := by
  have hspelling : ∀ e ∈ caseVariants, ∃ v ∈ e.2.take 1, v ≠ e.1 := by decide
  obtain ⟨v, hv, hne⟩ := hspelling e he
  refine ⟨isSmallPoint_of_mem_firstSpellings he List.mem_cons_self, v, List.mem_of_mem_take hv, ?_,
    hne⟩
  exact isSmallPoint_of_mem_firstSpellings he (List.mem_cons_of_mem _ hv)

/-- The character counts as equal to `c` and is its own lower case wherever it stands. -/
structure IsSpelling (c d : Char) : Prop where
  equal : equalsIgnoringCase c d = true
  ne_sigma : d ≠ 'Σ'
  lower_eq : lowerChar d = [d]

/-- A letter of the table has two spellings. -/
theorem exists_isSpelling_of_lookup {vs : List Nat} (hcase : hasCase c = true)
    (hlookup : caseVariants.lookup (lowerLetter c).toNat = some vs) :
    ∃ d e, IsSpelling c d ∧ IsSpelling c e ∧ d ≠ e := by
  have hmem := mem_of_lookup hlookup
  obtain ⟨⟨-, hsigma, hlower⟩, v, hv, ⟨hpoint, hsigma', hlower'⟩, hne⟩ :=
    isSmallPoint_of_mem_caseVariants hmem
  rw [Char.ofNat_toNat] at hsigma hlower
  refine ⟨lowerLetter c, Char.ofNat v, ⟨?_, hsigma, hlower⟩, ⟨?_, hsigma', hlower'⟩, ?_⟩
  · refine equalsIgnoringCase_iff.2 (.inr ⟨hcase, .inl ?_⟩)
    rw [lowerLetter, hlower]
    rfl
  · refine equalsIgnoringCase_iff.2 (.inr ⟨hcase, .inr ?_⟩)
    rw [hlookup, lowerLetter, hlower', List.headD_cons, hpoint]
    exact hv
  · intro heq
    rw [← heq] at hpoint
    exact hne hpoint.symm

/-- **The letters with one spelling are those that the table does not list.** -/
theorem hasOneSpelling_iff :
    HasOneSpelling c ↔ (hasCase c = true → caseVariants.lookup (lowerLetter c).toNat = none) := by
  constructor
  · intro hone hcase
    cases hlookup : caseVariants.lookup (lowerLetter c).toNat with
    | none => rfl
    | some vs =>
      -- both spellings would be the lower case of `c`
      obtain ⟨d, e, hd, he, hne⟩ := exists_isSpelling_of_lookup hcase hlookup
      have hsame : [d] = [e] := by
        rw [← hd.lower_eq, ← he.lower_eq, (hone d hd.equal).2.2, (hone e he.equal).2.2]
      exact absurd (List.singleton_inj.1 hsame) hne
  · intro hlookup d hd
    have hsigma : ∀ x, lowerLetter x = lowerLetter c → hasCase c = true → x ≠ 'Σ' ∧ x ≠ 'İ' := by
      intro x hx hcase
      have hnone := hlookup hcase
      rw [← hx] at hnone
      constructor
      · rintro rfl
        exact absurd hnone (by decide)
      · rintro rfl
        exact absurd hnone (by decide)
    rcases equalsIgnoringCase_iff.1 hd with ⟨hcase, rfl⟩ | ⟨hcase, hletter | hlisted⟩
    · have hne : c ≠ 'Σ' := by
        rintro rfl
        exact absurd hcase (by decide)
      exact ⟨hne, hne, rfl⟩
    · obtain ⟨hc, hc'⟩ := hsigma c rfl hcase
      obtain ⟨hd, hd'⟩ := hsigma d hletter hcase
      refine ⟨hc, hd, ?_⟩
      rw [lowerChar_of_ne hc', lowerChar_of_ne hd', hletter]
    · rw [hlookup hcase] at hlisted
      simp at hlisted

/-- Whether a character has one spelling can be checked with the table. -/
instance : DecidablePred HasOneSpelling := fun _ => decidable_of_iff _ hasOneSpelling_iff.symm

/-- A letter with several spellings has one that is not what `form` says. -/
theorem exists_isSpelling_of_ne (h : ¬HasOneSpelling c) (form : List Char) :
    ∃ d, IsSpelling c d ∧ [d] ≠ form := by
  rw [hasOneSpelling_iff, Classical.not_imp] at h
  obtain ⟨hcase, hlookup⟩ := h
  obtain ⟨vs, hvs⟩ := Option.ne_none_iff_exists'.1 hlookup
  obtain ⟨d, e, hd, he, hne⟩ := exists_isSpelling_of_lookup hcase hvs
  by_cases hform : [d] = form
  · refine ⟨e, he, ?_⟩
    rw [← hform]
    exact fun heq => hne (List.singleton_inj.1 heq).symm
  · exact ⟨d, hd, hform⟩

/-! ## Another spelling in a text -/

/-- The length of the lower case does not depend on the surroundings. -/
theorem length_lowerBetween (before s after : List Char) :
    (lowerBetween before s after).length = (s.flatMap lowerChar).length := by
  induction s generalizing before with
  | nil => rfl
  | cons c s ih =>
    rw [lowerBetween, List.length_append, ih, List.flatMap_cons, List.length_append]
    congr 1
    split
    · next hc =>
      have hsigma : (lowerChar 'Σ').length = 1 := by decide
      rw [hc, hsigma, List.length_singleton]
    · rfl

/-- The length of the lower case does not depend on where the text stands. -/
theorem length_lowerAfter (before s : List Char) :
    (lowerAfter before s).length = (s.flatMap lowerChar).length := by
  rw [← lowerBetween_nil, length_lowerBetween]

/-- Lower case around one character of a text. -/
theorem lower_around (a : List Char) (c : Char) (b : List Char) :
    lower (a ++ c :: b) = lowerBetween [] a (c :: b) ++
      (lowerBetween a.reverse [c] b ++ lowerAfter (c :: a.reverse) b) := by
  rw [lower, lowerAfter_append, List.append_nil]
  congr 1
  exact lowerAfter_append a.reverse [c] b

/-- A text in which one character is written otherwise, with another lower case at this place, does
not hold the lower case of the text. -/
theorem not_lower_infix_of_isSpelling (h : IsSpelling c d)
    (hne : [d] ≠ lowerBetween a.reverse [c] b) : ¬lower (a ++ c :: b) <:+: lower (a ++ d :: b) := by
  intro hinfix
  have hd : lowerBetween a.reverse [d] b = [d] := by
    rw [lowerBetween, if_neg h.ne_sigma, h.lower_eq]
    rfl
  have hc : 0 < (lowerBetween a.reverse [c] b).length := by
    rw [length_lowerBetween, List.flatMap_singleton, List.length_pos_iff]
    exact lowerChar_ne_nil c
  rw [lower_around, lower_around, hd] at hinfix
  have hlengths := hinfix.length_le
  simp only [List.length_append, length_lowerBetween [] a, length_lowerAfter] at hlengths
  simp only [List.length_singleton] at hlengths
  -- so both sides are equally long, and what differs stands at the same place
  have heq := hinfix.eq_of_length (by
    simp only [List.length_append, length_lowerBetween [] a, length_lowerAfter,
      List.length_singleton]
    omega)
  have hrest := List.append_inj_right heq (by rw [length_lowerBetween, length_lowerBetween])
  have hplace := List.append_inj_left hrest (by
    rw [List.length_singleton]
    omega)
  exact hne hplace.symm

end TaskQuery.Text
