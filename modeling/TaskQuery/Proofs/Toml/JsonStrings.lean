import Mathlib.Algebra.Group.Nat.Defs
import Mathlib.Tactic.SplitIfs
import TaskQuery.Json.Writer
import TaskQuery.Toml.Reader

/-!
# JSON strings read as TOML

A string that is written for JSON looks like a basic string of TOML: both escape by a backslash,
and both know `\u` with four hexadecimal digits.  They differ in what the digits mean.  JSON writes
code units, so that a character outside the basic plane becomes a pair of surrogates; TOML takes
only the codes of characters, and no surrogate is one.

* `hexNumber?_hex`: written hexadecimal digits are read back.
* `basicString_escape`: one escaped character, read back or refused.
* `AreRead`, `areRead_escape`: a string is read escape by escape.
* `string?_quote`: a JSON string is read back exactly if no character needs a pair.
-/

namespace TaskQuery

/-- A character that is written as a pair of code units. -/
def Json.isPaired (c : Char) : Bool := 0x10000 ≤ c.toNat

/-! ## Hexadecimal digits -/

namespace Text

/-- A written hexadecimal digit has its value. -/
theorem hexValue?_hexDigit (n : Nat) : hexValue? (hexDigit n) = some (n % 16) := by
  have digit : ∀ d < 16, hexValue? (Nat.digitChar d) = some d := by decide
  exact digit _ (Nat.mod_lt n (by decide))

/-- The digits that are written are those of the number, as far as the width goes. -/
theorem hexNumber?_hex (width n : Nat) : hexNumber? (hex width n) = some (n % 16 ^ width) := by
  induction width generalizing n with
  | zero => rw [Nat.pow_zero, Nat.mod_one]; rfl
  | succ width ih =>
    have front : List.foldlM (fun m c => (hexValue? c).map (16 * m + ·)) 0 (hex width (n / 16)) =
        some (n / 16 % 16 ^ width) := ih (n / 16)
    rw [hex, hexNumber?, List.foldlM_append, front]
    simp only [List.foldlM_cons, List.foldlM_nil, hexValue?_hexDigit, Option.map_some,
      Option.bind_eq_bind, Option.bind_some, Option.pure_def]
    rw [Nat.pow_succ, Nat.mul_comm (16 ^ width) 16, Nat.mod_mul, Nat.add_comm]

/-- Hexadecimal digits have values. -/
theorem isSome_of_mem_hex {width n : Nat} {d : Char} (h : d ∈ hex width n) :
    (hexValue? d).isSome = true := by
  induction width generalizing n with
  | zero => cases h
  | succ width ih =>
    rw [hex, List.mem_append, List.mem_singleton] at h
    rcases h with h | rfl
    · exact ih h
    · rw [hexValue?_hexDigit, Option.isSome_some]

end Text

namespace Toml

open Text Json

/-! ## Escapes -/

/-- A code unit is the code of a character unless it is a surrogate. -/
theorem coded?_hex {n : Nat} (h : n < 0x10000) :
    coded? (hex 4 n) = if n < 0xd800 ∨ 0xe000 ≤ n then some (Char.ofNat n) else none := by
  have hn : n % 16 ^ 4 = n := Nat.mod_eq_of_lt h
  have hbelow : n < 0x110000 := by omega
  rw [coded?, hexNumber?_hex, hn, Option.bind_eq_bind, Option.bind_some]
  simp only [hbelow, decide_true, Bool.and_true, Bool.or_eq_true, decide_eq_true_eq]

/-- The code of a character is no surrogate. -/
theorem toNat_valid (c : Char) : c.toNat < 0xd800 ∨ (0xe000 ≤ c.toNat ∧ c.toNat < 0x110000) := by
  have h := c.valid
  simp only [UInt32.isValidChar, Nat.isValidChar] at h
  simp only [Char.toNat]
  omega

/-- A character of the basic plane is the one with its code unit. -/
theorem coded?_toNat {c : Char} (h : isPaired c = false) : coded? (hex 4 c.toNat) = some c := by
  have hc : c.toNat < 0x10000 := by simpa [isPaired] using h
  rw [coded?_hex hc, if_pos ((toNat_valid c).imp_right And.left), Char.ofNat_toNat]

/-- A string with one more character in front. -/
def withFirst (c : Char) : Option (List Char × List Char) → Option (List Char × List Char) :=
  Option.map fun (text, rest) => (c :: text, rest)

/-- A character that was read comes in front of those behind it. -/
theorem bind_eq_withFirst (c : Char) (r : Option (List Char × List Char)) :
    (r.bind fun p => some (c :: p.1, p.2)) = withFirst c r := by
  cases r <;> rfl

/-- Four digits give the character with that code, and the string goes on behind them. -/
theorem basicString_code (n : Nat) (rest : List Char) :
    basicString ('\\' :: 'u' :: hex 4 n ++ rest) =
      (coded? (hex 4 n)).bind fun c => withFirst c (basicString rest) := by
  obtain ⟨a, b, c, d, hdigits⟩ : ∃ a b c d, hex 4 n = [a, b, c, d] := ⟨_, _, _, _, rfl⟩
  rw [hdigits]
  exact congrArg _ (funext fun c => bind_eq_withFirst c (basicString rest))

/-- A letter behind a backslash gives the character that it stands for. -/
theorem basicString_letter {letter c : Char} (h : escaped? letter = some c) (rest : List Char) :
    basicString ('\\' :: letter :: rest) = withFirst c (basicString rest) := by
  unfold escaped? at h
  split at h <;> cases h <;> exact bind_eq_withFirst _ (basicString rest)

/-- A character that needs no escape stands for itself. -/
theorem basicString_plain {c : Char} (hq : c ≠ '"') (hb : c ≠ '\\') (hlegal : isIllegal c = false)
    (rest : List Char) : basicString (c :: rest) = withFirst c (basicString rest) := by
  rw [basicString]
  · simp only [hlegal, hb, decide_false, Bool.or_self, Bool.false_eq_true, if_false]
    rfl
  all_goals simp_all

/-- A character is written by a letter, as itself, or by its code units. -/
theorem escape_cases (c : Char) :
    (∃ letter, escaped? letter = some c ∧ escape c = ['\\', letter]) ∨
    (c ≠ '"' ∧ c ≠ '\\' ∧ 0x20 ≤ c.toNat ∧ c.toNat < 0x7f ∧ escape c = [c]) ∨
    escape c = (codeUnits c).flatMap fun u => '\\' :: 'u' :: hex 4 u := by
  unfold escape
  split_ifs with hquote hslash hn hr ht hb hf hplain
  · exact .inl ⟨'"', by rw [hquote]; rfl, rfl⟩
  · exact .inl ⟨'\\', by rw [hslash]; rfl, rfl⟩
  · exact .inl ⟨'n', hn ▸ rfl, rfl⟩
  · exact .inl ⟨'r', hr ▸ rfl, rfl⟩
  · exact .inl ⟨'t', ht ▸ rfl, rfl⟩
  · exact .inl ⟨'b', hb ▸ rfl, rfl⟩
  · exact .inl ⟨'f', hf ▸ rfl, rfl⟩
  · simp only [Bool.and_eq_true, decide_eq_true_eq] at hplain
    exact .inr (.inl ⟨hquote, hslash, hplain.1, hplain.2, rfl⟩)
  · exact .inr (.inr rfl)

/-- Whatever has a letter of its own is no pair. -/
theorem isPaired_of_escaped? {letter c : Char} (h : escaped? letter = some c) :
    isPaired c = false := by
  unfold escaped? at h
  split at h <;> cases h <;> rfl

/-- A character outside the basic plane is written as a pair of surrogates. -/
theorem codeUnits_of_isPaired {c : Char} (h : isPaired c = true) :
    ∃ high low, 0xd800 ≤ high ∧ high < 0xdc00 ∧ codeUnits c = [high, low] := by
  have hc : 0x10000 ≤ c.toNat := by simpa [isPaired] using h
  have hvalid := toNat_valid c
  exact ⟨_, _, by omega, by omega, if_neg (by omega)⟩

/-- A character of the basic plane is its own code unit. -/
theorem codeUnits_of_not_isPaired {c : Char} (h : isPaired c = false) :
    codeUnits c = [c.toNat] :=
  if_pos (by simpa [isPaired] using h)

/-- What is escaped for JSON is read back, but for a character that is written as a pair: the
first of its code units is a surrogate. -/
theorem basicString_escape (c : Char) (rest : List Char) :
    basicString (escape c ++ rest) =
      if isPaired c then none else withFirst c (basicString rest) := by
  rcases escape_cases c with ⟨letter, hletter, hesc⟩ | ⟨hq, hs, hlow, hhigh, hesc⟩ | hesc
  · rw [hesc, isPaired_of_escaped? hletter]
    exact basicString_letter hletter rest
  · have hlegal : isIllegal c = false := by
      simp only [isIllegal, Bool.or_eq_false_iff, Bool.and_eq_false_iff, decide_eq_false_iff_not]
      omega
    have hpair : isPaired c = false := by
      simp only [isPaired, decide_eq_false_iff_not]
      omega
    rw [hesc, hpair]
    exact basicString_plain hq hs hlegal rest
  · cases hpair : isPaired c with
    | true =>
      obtain ⟨high, low, hlow, hhigh, hunits⟩ := codeUnits_of_isPaired hpair
      have hnone : coded? (hex 4 high) = none := by
        rw [coded?_hex (by omega), if_neg (by omega)]
      rw [hesc, hunits, List.flatMap_cons, List.append_assoc, basicString_code, hnone]
      rfl
    | false =>
      rw [hesc, codeUnits_of_not_isPaired hpair, List.flatMap_singleton, basicString_code,
        coded?_toNat hpair]
      rfl

/-- What is written for a character does not begin with a quote. -/
theorem exists_escape_eq_cons (c : Char) : ∃ d more, d ≠ '"' ∧ escape c = d :: more := by
  rcases escape_cases c with ⟨letter, -, hesc⟩ | ⟨hq, -, -, -, hesc⟩ | hesc
  · exact ⟨'\\', [letter], by decide, hesc⟩
  · exact ⟨c, [], hq, hesc⟩
  · cases hpair : isPaired c with
    | true =>
      obtain ⟨high, low, -, -, hunits⟩ := codeUnits_of_isPaired hpair
      exact ⟨'\\', _, by decide, by rw [hesc, hunits, List.flatMap_cons]; rfl⟩
    | false =>
      exact ⟨'\\', _, by decide, by
        rw [hesc, codeUnits_of_not_isPaired hpair, List.flatMap_cons]; rfl⟩

/-! ## Strings -/

/-- Escapes that make up a string on one line: each is read as its character or refused, and none
begins with a quote, which would end the string. -/
structure AreRead (escape : Char → List Char) (isRefused : Char → Bool) : Prop where
  /-- An escape is read as its character, whatever follows it. -/
  basicString_append : ∀ c rest, basicString (escape c ++ rest) =
    if isRefused c then none else withFirst c (basicString rest)
  /-- An escape begins with something else than a quote. -/
  exists_eq_cons : ∀ c, ∃ d more, d ≠ '"' ∧ escape c = d :: more

namespace AreRead

variable {escape : Char → List Char} {isRefused : Char → Bool}

/-- A string of escapes is read back exactly if none of them is refused. -/
theorem basicString_flatMap (h : AreRead escape isRefused) (s rest : List Char) :
    basicString (s.flatMap escape ++ '"' :: rest) =
      if s.any isRefused then none else some (s, rest) := by
  induction s with
  | nil => rfl
  | cons c s ih =>
    rw [List.flatMap_cons, List.append_assoc, h.basicString_append, ih, List.any_cons]
    cases isRefused c <;> cases s.any isRefused <;> rfl

/-- A string whose first two characters are not both quotes stands on one line. -/
theorem string?_oneLine {s : List Char} (h : ∀ cs, s ≠ '"' :: '"' :: cs) :
    string? ('"' :: s) = basicString s := by
  unfold string?
  split
  · next heq => exact absurd (List.cons.inj heq).2 (h _)
  · next heq => rw [(List.cons.inj heq).2]
  all_goals simp_all

/-- A string of escapes stands on one line: no third quote follows the first two. -/
theorem string?_flatMap (h : AreRead escape isRefused) (s : List Char) {rest : List Char}
    (hrest : rest.head? ≠ some '"') :
    string? ('"' :: s.flatMap escape ++ '"' :: rest) =
      if s.any isRefused then none else some (s, rest) := by
  rw [List.cons_append, string?_oneLine, h.basicString_flatMap]
  intro cs heq
  cases s with
  | nil =>
    obtain rfl := (List.cons.inj heq).2
    exact hrest rfl
  | cons c s =>
    obtain ⟨d, more, hd, hesc⟩ := h.exists_eq_cons c
    rw [List.flatMap_cons, hesc] at heq
    exact hd (List.cons.inj heq).1

end AreRead

/-- The escapes of JSON are read, but for pairs of code units. -/
theorem areRead_escape : AreRead escape isPaired := ⟨basicString_escape, exists_escape_eq_cons⟩

/-- A JSON string is read back as TOML exactly if none of its characters is written as a pair. -/
theorem string?_quote (s : List Char) {rest : List Char} (h : rest.head? ≠ some '"') :
    string? (quote s ++ rest) = if s.any isPaired then none else some (s, rest) := by
  have hquote : quote s ++ rest = '"' :: s.flatMap escape ++ '"' :: rest := by simp [quote]
  rw [hquote, areRead_escape.string?_flatMap s h]

/-- No carriage return is written for a character. -/
theorem cr_not_mem_escape (c : Char) : '\r' ∉ escape c := by
  have code : ∀ n, '\r' ∉ '\\' :: 'u' :: hex 4 n := by
    intro n h
    have hmem : '\r' ∈ hex 4 n := by simpa using h
    exact absurd (isSome_of_mem_hex hmem) (by decide)
  intro h
  rcases escape_cases c with ⟨letter, hletter, hesc⟩ | ⟨-, -, hlow, -, hesc⟩ | hesc
  · rw [hesc] at h
    obtain rfl : '\r' = letter := by simpa using h
    cases hletter
  · rw [hesc, List.mem_singleton] at h
    subst h
    exact absurd hlow (by decide)
  · rw [hesc, List.mem_flatMap] at h
    obtain ⟨unit, -, hmem⟩ := h
    exact code unit hmem

/-- No carriage return is written for a text. -/
theorem cr_not_mem_quote (s : List Char) : '\r' ∉ quote s := by
  have hbody : '\r' ∉ s.flatMap escape := by
    rw [List.mem_flatMap]
    rintro ⟨c, -, h⟩
    exact cr_not_mem_escape c h
  simp [quote, hbody]

end Toml

end TaskQuery
