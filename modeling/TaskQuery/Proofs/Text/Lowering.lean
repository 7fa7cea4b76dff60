import TaskQuery.Proofs.Text.CaseRules
import TaskQuery.Proofs.Text.Plain

/-!
# What lower case leaves alone

Lower case depends on what stands around a character for the capital sigma alone, and it neither
makes nor changes the signs of ASCII below the letters.

* `lower_of_not_mem`: without a capital sigma a text is put in lower case character by character.
* `exists_sigma_mem_lower`: with one, there is a small sigma afterwards.
* `lowerChar_eq_self`: only the characters in `lowerSources` are moved.
* `eq_of_mem_lowerChar`, `infix_of_infix_lower`: signs come from the signs of the text, in the
  same order and equally close.
-/

namespace TaskQuery.Text

variable {s u : List Char} {c d : Char}

/-! ## Sigma -/

/-- Without a capital sigma, lower case is taken character by character. -/
theorem lowerAfter_of_not_mem (h : 'Σ' ∉ s) (before : List Char) :
    lowerAfter before s = s.flatMap lowerChar := by
  induction s generalizing before with
  | nil => rfl
  | cons c s ih =>
    obtain ⟨hc, hs⟩ := not_or.1 (mt List.mem_cons.2 h)
    rw [lowerAfter, if_neg (Ne.symm hc), ih hs, List.flatMap_cons]

/-- Without a capital sigma a text is put in lower case character by character. -/
theorem lower_of_not_mem (h : 'Σ' ∉ s) : lower s = s.flatMap lowerChar :=
  lowerAfter_of_not_mem h []

/-- Without capital sigmas, the lower case of two texts is that of each. -/
theorem lower_append {t : List Char} (hs : 'Σ' ∉ s) (ht : 'Σ' ∉ t) :
    lower (s ++ t) = lower s ++ lower t := by
  have hst : 'Σ' ∉ s ++ t := by simp [hs, ht]
  rw [lower_of_not_mem hst, lower_of_not_mem hs, lower_of_not_mem ht, List.flatMap_append]

/-- A capital sigma becomes a small one. -/
theorem exists_sigma_mem_lowerAfter (h : 'Σ' ∈ s) (before : List Char) :
    ∃ c ∈ lowerAfter before s, c = 'ς' ∨ c = 'σ' := by
  induction s generalizing before with
  | nil => cases h
  | cons c s ih =>
    rw [lowerAfter]
    by_cases hc : c = 'Σ'
    · rw [if_pos hc]
      refine ⟨_, List.mem_append_left _ (List.mem_singleton_self _), ?_⟩
      split
      · exact .inl rfl
      · exact .inr rfl
    · obtain ⟨d, hd, hsigma⟩ := ih ((List.mem_cons.1 h).resolve_left (Ne.symm hc)) (c :: before)
      exact ⟨d, List.mem_append_right _ hd, hsigma⟩

/-- A capital sigma becomes a small one, in the middle or at the end of a word. -/
theorem exists_sigma_mem_lower (h : 'Σ' ∈ s) : ∃ c ∈ lower s, c = 'ς' ∨ c = 'σ' :=
  exists_sigma_mem_lowerAfter h []

/-! ## What lower case moves -/

/-- The capital letters of ASCII. -/
def capitals : CaseRule := ⟨65, 90, 1, 32⟩

/-- The characters that lower case moves: these letters, the dotted one, and those of the rules. -/
def lowerSources : List (List Nat) := ['İ'.toNat] :: (capitals :: lowerRules).map CaseRule.points

/-- What is not moved is its own lower case. -/
theorem lowerChar_eq_self (h : c.toNat ∉ lowerSources.flatten) : lowerChar c = [c] := by
  rw [lowerSources, List.map_cons, List.flatten_cons, List.flatten_cons, List.mem_append,
    List.mem_append, not_or, not_or] at h
  obtain ⟨hdotted, hcapital, hrules⟩ := h
  rw [lowerChar]
  split
  · next hascii =>
    have hletters : ∀ c : Char, c.toNat < 128 → c.toNat ∉ capitals.points → c.toLower = c :=
      forall_ascii (by decide)
    rw [hletters c hascii hcapital]
  · split
    · next heq => exact absurd (List.mem_singleton.2 (congrArg Char.toNat heq)) hdotted
    · rcases applyRules_cases lowerRules c.toNat with ⟨-, hstays⟩ | ⟨r, hr, happly⟩
      · rw [hstays, Char.ofNat_toNat]
      · exact absurd (mem_flatten_points hr happly) hrules

/-! ## Signs -/

/-- A character of ASCII below the letters, such as a quote, a dot or an operator. -/
def IsSign (c : Char) : Prop := 0 < c.toNat ∧ c.toNat < 65

/-- Whether a character is a sign can be checked. -/
instance (c : Char) : Decidable (IsSign c) := inferInstanceAs (Decidable (_ ∧ _))

/-- Lower case leaves a sign as it is. -/
theorem toLower_of_isSign (h : IsSign c) : c.toLower = c := by
  refine dif_neg ?_
  rintro ⟨hcapital, -⟩
  rw [ge_iff_le, UInt32.le_iff_toNat_le] at hcapital
  change 65 ≤ c.toNat at hcapital
  exact absurd h.2 (by omega)

/-- A sign is its own lower case. -/
theorem lowerChar_of_isSign (h : IsSign c) : lowerChar c = [c] := by
  rw [lowerChar, if_pos (by have := h.2; omega), toLower_of_isSign h]

/-- No rule leads to a sign. -/
theorem le_applyRules {n : Nat} (h : 128 ≤ n) : 97 ≤ applyRules lowerRules n := by
  have hrules : ∀ r ∈ lowerRules, 97 ≤ (r.first : Int) + r.shift := by decide +kernel
  rcases applyRules_cases lowerRules n with ⟨-, hstays⟩ | ⟨r, hmem, happly⟩
  · rw [hstays]
    omega
  · have hr := hrules r hmem
    obtain ⟨hfirst, -, -, himage⟩ := CaseRule.apply?_eq_some_iff.1 happly
    omega

/-- Codes from the small letters on are no signs. -/
theorem not_isSign_ofNat {n : Nat} (h : 97 ≤ n) : ¬IsSign (Char.ofNat n) := by
  rintro ⟨hpos, hlt⟩
  by_cases hvalid : n.isValidChar
  · rw [Char.ofNat, dif_pos hvalid] at hlt
    change n < 65 at hlt
    omega
  · rw [Char.ofNat, dif_neg hvalid] at hpos
    exact absurd hpos (by decide)

/-- What becomes a sign in lower case is one already. -/
theorem eq_of_isSign_toLower (h : IsSign c.toLower) : c.toLower = c := by
  refine dif_neg ?_
  rintro ⟨hfirst, hlast⟩
  -- the small letter to a capital is no sign
  have hlt := h.2
  rw [show c.toLower = ⟨c.val + 32, _⟩ from dif_pos ⟨hfirst, hlast⟩] at hlt
  change (c.val + 32).toNat < 65 at hlt
  rw [ge_iff_le, UInt32.le_iff_toNat_le] at hfirst
  rw [UInt32.le_iff_toNat_le] at hlast
  rw [UInt32.toNat_add] at hlt
  change 65 ≤ c.val.toNat at hfirst
  change c.val.toNat ≤ 90 at hlast
  change (c.val.toNat + 32) % 4294967296 < 65 at hlt
  omega

/-- A sign in the lower case of a character is that character. -/
theorem eq_of_mem_lowerChar (h : d ∈ lowerChar c) (hd : IsSign d) : d = c := by
  rw [lowerChar] at h
  split at h
  · obtain rfl := List.mem_singleton.1 h
    exact eq_of_isSign_toLower hd
  · split at h
    · simp only [List.mem_cons, List.not_mem_nil, or_false] at h
      rcases h with rfl | rfl
      · exact absurd hd (by decide)
      · exact absurd hd (by decide)
    · obtain rfl := List.mem_singleton.1 h
      exact absurd hd (not_isSign_ofNat (le_applyRules (by omega)))

/-- No character goes away in lower case. -/
theorem lowerChar_ne_nil (c : Char) : lowerChar c ≠ [] := by
  rw [lowerChar]
  split
  · exact List.cons_ne_nil _ _
  · split <;> exact List.cons_ne_nil _ _

/-- Lower case brings no signs in. -/
theorem mem_of_mem_lowerAfter {before : List Char} (hd : IsSign d) (h : d ∈ lowerAfter before s) :
    d ∈ s := by
  induction s generalizing before with
  | nil => cases h
  | cons c s ih =>
    rw [lowerAfter, List.mem_append] at h
    refine List.mem_cons.2 (h.imp (fun hfirst => ?_) ih)
    split at hfirst
    · obtain rfl := List.mem_singleton.1 hfirst
      split at hd <;> exact absurd hd (by decide)
    · exact eq_of_mem_lowerChar hfirst hd

/-- A sign of the lower case is one of the text. -/
theorem mem_of_mem_lower (hd : IsSign d) (h : d ∈ lower s) : d ∈ s := mem_of_mem_lowerAfter hd h

/-- Lower case keeps the number of each sign. -/
theorem count_lowerAfter (hd : IsSign d) (before : List Char) :
    (lowerAfter before s).count d = s.count d := by
  induction s generalizing before with
  | nil => rfl
  | cons c s ih =>
    rw [lowerAfter, List.count_append, ih, Nat.add_comm, List.count_cons]
    congr 1
    by_cases hc : c = d
    · obtain rfl := hc
      have hsigma : c ≠ 'Σ' := by
        rintro rfl
        exact absurd hd (by decide)
      simp [hsigma, lowerChar_of_isSign hd]
    · simp only [beq_iff_eq, hc, if_false]
      refine List.count_eq_zero.2 fun hmem => ?_
      split at hmem
      · obtain rfl := List.mem_singleton.1 hmem
        split at hd <;> exact absurd hd (by decide)
      · exact hc (eq_of_mem_lowerChar hmem hd).symm

/-- There are as many of a sign in lower case. -/
theorem count_lower (hd : IsSign d) (s : List Char) : (lower s).count d = s.count d :=
  count_lowerAfter hd []

/-- The lower case has the signs of the text. -/
theorem mem_lower_iff (hd : IsSign d) : d ∈ lower s ↔ d ∈ s := by
  rw [← List.count_pos_iff, count_lower hd, List.count_pos_iff]

/-- A text that is not empty stays so in lower case, wherever it stands. -/
theorem lowerAfter_ne_nil {before : List Char} (h : s ≠ []) : lowerAfter before s ≠ [] := by
  obtain ⟨c, s, rfl⟩ := List.exists_cons_of_ne_nil h
  rw [lowerAfter]
  intro hnil
  obtain ⟨hfirst, -⟩ := List.append_eq_nil_iff.1 hnil
  split at hfirst
  · cases hfirst
  · exact lowerChar_ne_nil c hfirst

/-- A text that is not empty stays so in lower case. -/
theorem lower_ne_nil (h : s ≠ []) : lower s ≠ [] := lowerAfter_ne_nil h

/-- Signs in front of the lower case stand in front of the text. -/
theorem prefix_of_prefix_lower (hu : ∀ d ∈ u, IsSign d) (h : u <+: s.flatMap lowerChar) : u <+: s := by
  induction s generalizing u with
  | nil => exact h
  | cons c s ih =>
    cases u with
    | nil => exact List.nil_prefix
    | cons d u =>
      obtain ⟨hd, hu⟩ := List.forall_mem_cons.1 hu
      have hmem : d ∈ lowerChar c := by
        obtain ⟨e, es, he⟩ := List.exists_cons_of_ne_nil (lowerChar_ne_nil c)
        rw [List.flatMap_cons, he, List.cons_append, List.cons_prefix_cons] at h
        rw [he, h.1]
        exact List.mem_cons_self
      obtain rfl := eq_of_mem_lowerChar hmem hd
      rw [List.flatMap_cons, lowerChar_of_isSign hd, List.singleton_append,
        List.cons_prefix_cons] at h
      exact List.cons_prefix_cons.2 ⟨rfl, ih hu h.2⟩

/-- Signs next to each other in the lower case are so in the text. -/
theorem infix_of_infix_lower (hs : 'Σ' ∉ s) (hu : ∀ d ∈ u, IsSign d) (hne : u ≠ [])
    (h : u <:+: lower s) : u <:+: s := by
  rw [lower_of_not_mem hs] at h
  clear hs
  induction s with
  | nil => exact h
  | cons c s ih =>
    obtain ⟨d, u, rfl⟩ := List.exists_cons_of_ne_nil hne
    by_cases hprefix : d :: u <+: (c :: s).flatMap lowerChar
    · exact (prefix_of_prefix_lower hu hprefix).isInfix
    -- otherwise the part starts behind the lower case of `c`
    refine (ih ?_).trans (List.suffix_cons c s).isInfix
    rw [List.flatMap_cons] at h hprefix
    by_cases hmem : d ∈ lowerChar c
    · have hd := hu d List.mem_cons_self
      obtain rfl := eq_of_mem_lowerChar hmem hd
      rw [lowerChar_of_isSign hd, List.singleton_append] at h hprefix
      exact (List.infix_cons_iff.1 h).resolve_left hprefix
    · exact infix_of_infix_append hmem h

/-- There are no two dots in lower case where there are none before. -/
theorem not_dots_infix_lower (hs : 'Σ' ∉ s) (h : ¬"..".toList <:+: s) :
    ¬"..".toList <:+: lower s :=
  mt (infix_of_infix_lower hs (by simp [IsSign]) (by decide)) h

end TaskQuery.Text
