import TaskQuery.Proofs.Json.ReadBack

/-!
# The characters of written values

Whatever a text holds, what is written for it is visible: anything else is written by its code
units.  So a written value has no control characters but the line ends of its layout.

* `isShown_of_mem_writeAt`: every character of a written value is visible or a blank.
-/

namespace TaskQuery.Json

open Text

variable {c : Char} {s : List Char}

/-- A visible character of ASCII, or a blank. -/
def IsShown (c : Char) : Prop := (0x20 ≤ c.toNat ∧ c.toNat < 0x7f) ∨ isBlank c = true

/-- Whether a character is shown can be checked. -/
instance (c : Char) : Decidable (IsShown c) := inferInstanceAs (Decidable (_ ∨ _))

/-- All characters of the text are shown. -/
def AllShown (s : List Char) : Prop := ∀ c ∈ s, IsShown c

/-- Whether all characters of a text are shown can be checked. -/
instance (s : List Char) : Decidable (AllShown s) := List.decidableBAll _ s

/-- The visible characters are a range of codes. -/
theorem isShown_of_le {low high : Nat} (h : 0x20 ≤ low ∧ high < 0x7f) (hlow : low ≤ c.toNat)
    (hhigh : c.toNat ≤ high) : IsShown c :=
  .inl ⟨Nat.le_trans h.1 hlow, Nat.lt_of_le_of_lt hhigh h.2⟩

/-- Digits are visible. -/
theorem isShown_of_isDigit (h : c.isDigit = true) : IsShown c := by
  have hc := toNat_of_isDigit h
  exact isShown_of_le (by decide) hc.1 hc.2

/-- Hexadecimal digits are visible. -/
theorem isShown_of_mem_hex {width n : Nat} (h : c ∈ hex width n) : IsShown c := by
  have hvalue := isSome_of_mem_hex h
  unfold hexValue? at hvalue
  simp only [Bool.and_eq_true, decide_eq_true_eq, Char.le_def, UInt32.le_iff_toNat_le] at hvalue
  split at hvalue
  · next hc => exact isShown_of_le (by decide) hc.1 hc.2
  · split at hvalue
    · next hc => exact isShown_of_le (by decide) hc.1 hc.2
    · split at hvalue
      · next hc => exact isShown_of_le (by decide) hc.1 hc.2
      · cases hvalue

/-- What is written for a character is visible. -/
theorem isShown_of_mem_escape {d : Char} (h : d ∈ escape c) : IsShown d := by
  rcases Toml.escape_cases c with ⟨letter, hletter, hesc⟩ | ⟨-, -, hlow, hhigh, hesc⟩ | hesc
  · rw [hesc] at h
    rcases List.mem_cons.1 h with rfl | h
    · decide
    · rw [List.mem_singleton.1 h]
      unfold Toml.escaped? at hletter
      split at hletter <;> first | decide | cases hletter
  · rw [hesc, List.mem_singleton] at h
    exact .inl (h ▸ ⟨hlow, hhigh⟩)
  · rw [hesc, List.mem_flatMap] at h
    obtain ⟨unit, -, h⟩ := h
    rcases List.mem_cons.1 h with rfl | h
    · decide
    · rcases List.mem_cons.1 h with rfl | h
      · decide
      · exact isShown_of_mem_hex h

/-- What is written for a text is visible. -/
theorem isShown_of_mem_quote (h : c ∈ quote s) : IsShown c := by
  rw [quote, List.mem_append, List.mem_cons, List.mem_flatMap, List.mem_singleton] at h
  rcases h with (rfl | ⟨d, -, h⟩) | rfl
  · decide
  · exact isShown_of_mem_escape h
  · decide

/-- What is written for a number is visible. -/
theorem isShown_of_mem_signedDecimal {n : Int} (h : c ∈ signedDecimal n) : IsShown c := by
  rcases mem_signedDecimal h with rfl | h
  · decide
  · exact isShown_of_isDigit h

/-- In brackets stand visible characters and blanks, if the parts have nothing else. -/
theorem isShown_of_mem_bracket {layout : Layout} {opening closing : Char} {level : Nat}
    {parts : List (List Char)} (h : c ∈ layout.bracket opening closing level parts)
    (hopening : IsShown opening) (hclosing : IsShown closing)
    (hparts : ∀ w ∈ parts, AllShown w) : IsShown c := by
  by_cases hne : parts = []
  · subst hne
    rcases List.mem_cons.1 h with rfl | h
    · exact hopening
    · rw [List.mem_singleton.1 h]
      exact hclosing
  · obtain ⟨lead, gap, trail, hlead, hgap, htrail, hbracket⟩ :=
      bracket_eq layout opening closing level hne
    rw [hbracket, List.mem_cons, List.mem_append, List.mem_append, List.mem_append,
      List.mem_singleton] at h
    rcases h with rfl | h | h | h | rfl
    · exact hopening
    · exact .inr (hlead c h)
    · rcases mem_join h with h | ⟨w, hw, hc⟩
      · rcases List.mem_cons.1 h with rfl | h
        · exact .inl (by decide)
        · exact .inr (hgap c h)
      · exact hparts w hw c hc
    · exact .inr (htrail c h)
    · exact hclosing

/-- What is written for a value is shown. -/
theorem isShown_of_mem_writeAt {v : Value} (hv : IsExact v) {layout : Layout} {level : Nat}
    (h : c ∈ writeAt layout level v) : IsShown c := by
  induction hv generalizing level c with
  | null =>
    have hword : AllShown "null".toList := by decide
    exact hword c h
  | bool b =>
    have hword : AllShown (if b then "true" else "false").toList := by
      cases b <;> decide
    exact hword c h
  | int hn =>
    rw [writeAt] at h
    exact isShown_of_mem_signedDecimal h
  | text t =>
    rw [writeAt] at h
    exact isShown_of_mem_quote h
  | list _ ih =>
    rw [writeAt, writeList_eq_map] at h
    refine isShown_of_mem_bracket h (.inl (by decide)) (.inl (by decide)) fun w hw c hc => ?_
    obtain ⟨v, hv, rfl⟩ := List.mem_map.1 hw
    exact ih v hv hc
  | object _ _ ih =>
    rw [writeAt, writeEntries_eq_map] at h
    refine isShown_of_mem_bracket h (.inl (by decide)) (.inl (by decide)) fun w hw c hc => ?_
    obtain ⟨e, he, rfl⟩ := List.mem_map.1 hw
    rw [writeEntry, List.mem_append, List.mem_cons, List.mem_cons] at hc
    rcases hc with hc | rfl | rfl | hc
    · exact isShown_of_mem_quote hc
    · exact .inl (by decide)
    · exact .inl (by decide)
    · exact ih e he hc

end TaskQuery.Json
