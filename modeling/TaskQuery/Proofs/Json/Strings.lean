import TaskQuery.Json.Reader
import TaskQuery.Proofs.Toml.JsonStrings

/-!
# Strings read back

A string is written by the code units of its characters and read in three steps: first the code
units up to the closing quote, then the code points that they stand for, then the characters of
these.  A character is never written by a surrogate on its own, so that the steps undo what was
written, and texts that differ have different code points.

* `units?_quoted`: the code units of a written string.
* `codePoints_codeUnits`: the code points of the code units of a text.
* `shownText_toNat`: the text that code points of characters are shown as.
-/

namespace TaskQuery.Json

open Text Toml

/-! ## Code units -/

/-- A string with more code units in front. -/
def withUnits (us : List Nat) : Option (List Nat × List Char) → Option (List Nat × List Char) :=
  Option.map fun (more, rest) => (us ++ more, rest)

/-- A unit that was read comes in front of those behind it. -/
theorem bind_eq_withUnits (u : Nat) (r : Option (List Nat × List Char)) :
    (r.bind fun p => some (u :: p.1, p.2)) = withUnits [u] r := by
  cases r <;> rfl

/-- Units in front of units are one row. -/
theorem withUnits_withUnits (us vs : List Nat) (r : Option (List Nat × List Char)) :
    withUnits us (withUnits vs r) = withUnits (us ++ vs) r := by
  cases r <;> simp [withUnits]

/-- Four digits give the unit with that code. -/
theorem units?_code {u : Nat} (h : u < 0x10000) (rest : List Char) :
    units? ('\\' :: 'u' :: hex 4 u ++ rest) = withUnits [u] (units? rest) := by
  obtain ⟨a, b, c, d, hdigits⟩ : ∃ a b c d, hex 4 u = [a, b, c, d] := ⟨_, _, _, _, rfl⟩
  have hu : u % 16 ^ 4 = u := Nat.mod_eq_of_lt h
  have hunit : hexNumber? [a, b, c, d] = some u := by rw [← hdigits, hexNumber?_hex, hu]
  have hread : units? ('\\' :: 'u' :: [a, b, c, d] ++ rest) =
      (hexNumber? [a, b, c, d]).bind fun u => (units? rest).bind fun p => some (u :: p.1, p.2) :=
    rfl
  rw [hdigits, hread, hunit]
  exact bind_eq_withUnits u (units? rest)

/-- A letter behind a backslash gives the unit of its character. -/
theorem units?_letter {letter c : Char} (h : Toml.escaped? letter = some c) (rest : List Char) :
    units? ('\\' :: letter :: rest) = withUnits [c.toNat] (units? rest) := by
  unfold Toml.escaped? at h
  split at h <;> cases h <;> exact bind_eq_withUnits _ (units? rest)

/-- A character that needs no escape gives its own unit. -/
theorem units?_plain {c : Char} (hquote : c ≠ '"') (hslash : c ≠ '\\') (hlow : 0x20 ≤ c.toNat)
    (rest : List Char) : units? (c :: rest) = withUnits [c.toNat] (units? rest) := by
  have hlegal : ¬c.toNat < 0x20 := Nat.not_lt.2 hlow
  rw [units?]
  · simp only [hlegal, hslash, decide_false, Bool.or_self, Bool.false_eq_true, if_false]
    rfl
  all_goals simp_all

/-- Code units have four digits. -/
theorem lt_of_mem_codeUnits {c : Char} {u : Nat} (h : u ∈ codeUnits c) : u < 0x10000 := by
  have hvalid := toNat_valid c
  unfold codeUnits at h
  split at h
  · simp only [List.mem_singleton] at h
    omega
  · simp only [List.mem_cons, List.not_mem_nil, or_false] at h
    omega

/-- A row of codes gives the row of units. -/
theorem units?_codes {us : List Nat} (h : ∀ u ∈ us, u < 0x10000) (rest : List Char) :
    units? ((us.flatMap fun u => '\\' :: 'u' :: hex 4 u) ++ rest) = withUnits us (units? rest) := by
  induction us with
  | nil => cases hread : units? rest <;> simp [withUnits, hread]
  | cons u us ih =>
    obtain ⟨hu, hus⟩ := List.forall_mem_cons.1 h
    rw [List.flatMap_cons, List.append_assoc, units?_code hu, ih hus, withUnits_withUnits]
    rfl

/-- A written character is read as its code units, whichever way it is written. -/
theorem units?_escape (c : Char) (rest : List Char) :
    units? (escape c ++ rest) = withUnits (codeUnits c) (units? rest) := by
  rcases escape_cases c with ⟨letter, hletter, hesc⟩ | ⟨hquote, hslash, hlow, hhigh, hesc⟩ | hesc
  · rw [hesc, codeUnits_of_not_isPaired (isPaired_of_escaped? hletter)]
    exact units?_letter hletter rest
  · have hpair : isPaired c = false := by
      simp only [isPaired, decide_eq_false_iff_not]
      omega
    rw [hesc, codeUnits_of_not_isPaired hpair]
    exact units?_plain hquote hslash hlow rest
  · rw [hesc]
    exact units?_codes (fun u => lt_of_mem_codeUnits) rest

/-- A string is read up to its closing quote. -/
theorem units?_quoted (s rest : List Char) :
    units? (s.flatMap escape ++ '"' :: rest) = some (s.flatMap codeUnits, rest) := by
  induction s with
  | nil => rfl
  | cons c s ih =>
    rw [List.flatMap_cons, List.append_assoc, units?_escape, ih, List.flatMap_cons]
    rfl

/-! ## Code points -/

/-- A code unit that is no surrogate is a code point, whatever follows it. -/
theorem codePoints_toNat (c : Char) (us : List Nat) (h : c.toNat < 0x10000) :
    codePoints (c.toNat :: us) = c.toNat :: codePoints us := by
  have hvalid := toNat_valid c
  cases us with
  | nil => rfl
  | cons v us =>
    have hpair : ¬(0xd800 ≤ c.toNat ∧ c.toNat < 0xdc00) := by omega
    simp [codePoints, hpair]

/-- A high surrogate and a low one are a code point together. -/
theorem codePoints_pair (c : Char) (us : List Nat) (h : 0x10000 ≤ c.toNat) :
    codePoints ((0xd800 + (c.toNat - 0x10000) / 0x400) ::
      (0xdc00 + (c.toNat - 0x10000) % 0x400) :: us) = c.toNat :: codePoints us := by
  have hvalid := toNat_valid c
  have hhigh : (c.toNat - 0x10000) / 0x400 < 0x400 := by omega
  have hlow : (c.toNat - 0x10000) % 0x400 < 0x400 := Nat.mod_lt _ (by decide)
  have hcode : 0x10000 + (0xd800 + (c.toNat - 0x10000) / 0x400 - 0xd800) * 0x400 +
      (0xdc00 + (c.toNat - 0x10000) % 0x400 - 0xdc00) = c.toNat := by omega
  rw [codePoints, hcode, if_pos]
  simp only [Bool.and_eq_true, decide_eq_true_eq]
  omega

/-- The code units of a character in front of others are its code point. -/
theorem codePoints_codeUnits_append (c : Char) (us : List Nat) :
    codePoints (codeUnits c ++ us) = c.toNat :: codePoints us := by
  unfold codeUnits
  split
  · next h => exact codePoints_toNat c us h
  · next h => exact codePoints_pair c us (Nat.not_lt.1 h)

/-- The code units of a text stand for the code points of its characters. -/
theorem codePoints_codeUnits (s : List Char) :
    codePoints (s.flatMap codeUnits) = s.map Char.toNat := by
  induction s with
  | nil => rfl
  | cons c s ih => rw [List.flatMap_cons, codePoints_codeUnits_append, ih, List.map_cons]

/-- A character is what its code point is shown as. -/
theorem character_toNat (c : Char) : character c.toNat = c := by
  have hvalid := toNat_valid c
  have hlone : ¬(0xd800 ≤ c.toNat ∧ c.toNat < 0xe000) := by omega
  simp [character, hlone, Char.ofNat_toNat]

/-- A text is what the code points of its characters are shown as. -/
theorem shownText_toNat (s : String) : shownText (s.toList.map Char.toNat) = s := by
  rw [shownText, List.map_map, funext (f := character ∘ Char.toNat) (g := id) character_toNat,
    List.map_id, String.ofList_toList]

end TaskQuery.Json
