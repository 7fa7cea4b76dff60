import TaskQuery.Proofs.Match.Alternatives
import TaskQuery.Proofs.Number.Rounding

/-!
# Properties that are whole numbers

A value that is written in decimal digits is read as a floating-point number, and a property that
is a whole number is compared with that number exactly.  So whole numbers of up to 53 binary digits
are compared as they are written, and longer ones with the nearest number of the format.

* `IsNumeral`: digits, signs and operators are one alternative that has no other meaning.
* `matchesValue_signedDecimal`: a number alone asks for the property that is equal to it.
* `matchesValue_comparison`: an operator in front of an unsigned number compares with it.
* `matchesText_number`: what the filters with a whole number find, and that exactly one of less,
  equal and greater does.
-/

namespace TaskQuery

open Text Lexer Binary64

variable {v key : List Char} {r : ℕ} {a n : ℤ}

/-! ## Numbers in order -/

/-- What a comparison with a rounded number says of a whole number.  From 2^1024 on the rounded
number is infinite and lies above all of them. -/
def Comparison.Holds : Comparison → ℤ → ℕ → Prop
  | .after, a, r => r < 2 ^ 1024 ∧ (r : ℤ) < a
  | .notBefore, a, r => r < 2 ^ 1024 ∧ (r : ℤ) ≤ a
  | .before, a, r => r < 2 ^ 1024 → a < (r : ℤ)
  | .notAfter, a, r => r < 2 ^ 1024 → a ≤ (r : ℤ)

/-- Whether numbers compare so can be checked. -/
instance (c : Comparison) (a : ℤ) (r : ℕ) : Decidable (c.Holds a r) :=
  match c with
  | .after => inferInstanceAs (Decidable (r < 2 ^ 1024 ∧ (r : ℤ) < a))
  | .notBefore => inferInstanceAs (Decidable (r < 2 ^ 1024 ∧ (r : ℤ) ≤ a))
  | .before => inferInstanceAs (Decidable (r < 2 ^ 1024 → a < (r : ℤ)))
  | .notAfter => inferInstanceAs (Decidable (r < 2 ^ 1024 → a ≤ (r : ℤ)))

/-- Whole numbers are ordered as magnitudes as they are. -/
theorem wholeMagnitude_before (a b : ℤ) :
    (wholeMagnitude a).before (wholeMagnitude b) = decide (a < b) := by
  have hpos : (0 : ℤ) < ((1 <<< (-minExponent).toNat : ℕ) : ℤ) := by
    rw [Nat.shiftLeft_eq, Nat.one_mul]
    exact_mod_cast Nat.two_pow_pos _
  rw [wholeMagnitude, wholeMagnitude, Magnitude.before, decide_eq_decide]
  exact Int.mul_lt_mul_right hpos

/-- Different whole numbers have different magnitudes. -/
theorem wholeMagnitude_inj {a b : ℤ} : wholeMagnitude a = wholeMagnitude b ↔ a = b := by
  have hne : ((1 <<< (-minExponent).toNat : ℕ) : ℤ) ≠ 0 := by
    rw [Nat.shiftLeft_eq, Nat.one_mul]
    exact_mod_cast (Nat.two_pow_pos _).ne'
  rw [wholeMagnitude, wholeMagnitude, Magnitude.units.injEq, mul_left_inj' hne]

/-- A whole number is compared with a rounded one by their order. -/
theorem compareNumbers_ofRounded (c : Comparison) (a : ℤ) (r : ℕ) :
    Property.compareNumbers c (some (wholeMagnitude a)) (some (.ofRounded false r)) =
      decide (c.Holds a r) := by
  rw [Magnitude.ofRounded]
  split
  · next h =>
    simp only [Property.compareNumbers, wholeMagnitude_before, ← decide_not, not_lt]
    rw [if_neg Bool.false_ne_true]
    cases c <;> simp only [Comparison.Holds, h, true_and, forall_const]
  · next h =>
    have habove : (wholeMagnitude a).before .top = true := rfl
    have hbelow : Magnitude.top.before (wholeMagnitude a) = false := rfl
    rw [if_neg Bool.false_ne_true]
    cases c <;> simp only [Property.compareNumbers, habove, hbelow, Comparison.Holds, h, false_and,
      false_implies, Bool.not_true, Bool.not_false, decide_true, decide_false]

/-- A whole number is equal to a rounded one that is not infinite. -/
theorem wholeMagnitude_eq_ofRounded_iff {negative : Bool} :
    wholeMagnitude a = .ofRounded negative r ↔
      r < 2 ^ 1024 ∧ a = if negative then -(r : ℤ) else r := by
  rw [Magnitude.ofRounded]
  split
  · next h => rw [wholeMagnitude_inj, and_iff_right h]
  · next h =>
    refine iff_of_false ?_ fun hrange => h hrange.1
    cases negative <;> simp [wholeMagnitude]

/-! ## Numerals -/

/-- A text of digits, signs and operators. -/
structure IsNumeral (v : List Char) : Prop where
  /-- The text is not empty. -/
  ne_nil : v ≠ []
  /-- It holds nothing else. -/
  chars : ∀ c ∈ v, c.isDigit = true ∨ c ∈ ['-', '<', '>', '=']

namespace IsNumeral

/-- A numeral has only digits, a sign and an operator. -/
theorem not_mem (h : IsNumeral v) {c : Char} (hdigit : c.isDigit = false)
    (hsign : c ∉ ['-', '<', '>', '=']) : c ∉ v := by
  intro hc
  rcases h.chars c hc with hc | hc
  · rw [hdigit] at hc
    cases hc
  · exact hsign hc

/-- The characters lie between the minus sign and the greater sign. -/
theorem toNat_bounds (h : IsNumeral v) {c : Char} (hc : c ∈ v) : 45 ≤ c.toNat ∧ c.toNat ≤ 62 := by
  rcases h.chars c hc with hc | hc
  · have hdigit := toNat_of_isDigit hc
    omega
  · simp only [List.mem_cons, List.not_mem_nil, or_false] at hc
    rcases hc with rfl | rfl | rfl | rfl <;> decide

/-- A numeral has no blanks. -/
theorem noBlank (h : IsNumeral v) : NoBlank v := by
  intro c hc
  have hbounds := h.toNat_bounds hc
  simp only [isBlank, Bool.or_eq_false_iff, Bool.and_eq_false_iff, decide_eq_false_iff_not,
    beq_eq_false_iff_ne]
  omega

/-- Lower case leaves a numeral as it is. -/
theorem lower_eq (h : IsNumeral v) : lower v = v := by
  refine lower_of_isLower fun c hc => ?_
  have hbounds := h.toNat_bounds hc
  exact ⟨by omega, toLower_of_isSign ⟨by omega, by omega⟩⟩

/-- A numeral is one alternative. -/
theorem isAlternative (h : IsNumeral v) : IsAlternative v where
  not_blank := by
    rw [trim_of_noBlank h.noBlank]
    exact h.ne_nil
  plain c hc hmem := by
    simp only [List.mem_cons, List.not_mem_nil, or_false] at hmem
    rcases hmem with rfl | rfl | rfl | rfl | rfl | rfl | rfl <;>
      exact h.not_mem (by decide) (by decide) hc
  or := by
    rw [words_of_noBlank h.noBlank h.ne_nil, List.mem_singleton]
    rintro rfl
    exact h.not_mem (c := 'O') (by decide) (by decide) (by decide)

/-- No numeral is a name. -/
theorem ne_null (h : IsNumeral v) : String.ofList (lower v) ≠ "null" := by
  rw [h.lower_eq]
  rintro hnull
  have hv : v = "null".toList := by rw [← hnull, String.toList_ofList]
  exact h.not_mem (c := 'n') (by decide) (by decide) (by rw [hv]; decide)

end IsNumeral

/-- A whole number is a numeral. -/
theorem isNumeral_signedDecimal (n : ℤ) : IsNumeral (signedDecimal n) := by
  refine ⟨signedDecimal_ne_nil n, ?_⟩
  intro c hc
  rcases mem_signedDecimal hc with rfl | hc
  · exact .inr List.mem_cons_self
  · exact .inl hc

/-- So is a number behind an operator. -/
theorem isNumeral_comparison (c : Comparison) (n : ℕ) :
    IsNumeral (c.symbol.toList ++ decimal n) where
  ne_nil := by cases c <;> simp [Comparison.symbol]
  chars := by
    intro d hd
    rcases List.mem_append.1 hd with hd | hd
    · have hsymbol : c.symbol.toList ⊆ ['-', '<', '>', '='] := by
        cases c <;> simp [Comparison.symbol]
      exact .inr (hsymbol hd)
    · exact .inl (isDigit_of_mem_decimal hd)

/-! ## Reading numerals -/

namespace Property

/-- A number alone is no comparison. -/
theorem numericComparison?_signedDecimal (n : ℤ) : numericComparison? (signedDecimal n) = none := by
  have hop : DateFilter.operator? (signedDecimal n) = none := by
    rw [DateFilter.operator?_eq_none_iff, signedDecimal]
    split
    · simp
    · constructor
      · exact head?_decimal_ne (by decide) _
      · exact head?_decimal_ne (by decide) _
  rw [numericComparison?, hop]
  rfl

/-- An operator before digits is read, with the digits behind it. -/
theorem operator?_append_decimal (c : Comparison) (n : ℕ) :
    DateFilter.operator? (c.symbol.toList ++ decimal n) = some (c, decimal n) := by
  -- the first digit does not join with the operator
  have hequals : ∀ t, decimal n ≠ '=' :: t := by
    intro t ht
    exact head?_decimal_ne (c := '=') (by decide) n (by rw [ht, List.head?_cons])
  cases c with
  | after =>
    show DateFilter.operator? ('>' :: decimal n) = _
    rw [DateFilter.operator?]
    exact hequals
  | before =>
    show DateFilter.operator? ('<' :: decimal n) = _
    rw [DateFilter.operator?]
    exact hequals
  | notBefore | notAfter => rfl

/-- An operator in front of digits is a comparison with the number that they are read as. -/
theorem numericComparison?_decimal (c : Comparison) (n : ℕ) :
    numericComparison? (c.symbol.toList ++ decimal n) = some (c, ofDecimal false n 0) := by
  have hdigits : ∀ d ∈ decimal n, isDigit d = true := by
    intro d hd
    rw [isDigit, digitValue?_of_isDigit (isDigit_of_mem_decimal hd)]
    rfl
  have hwhole : (decimal n).takeWhile isDigit = decimal n :=
    List.takeWhile_eq_self_iff.2 hdigits
  have hrest : (decimal n).dropWhile isDigit = [] := List.dropWhile_eq_nil_iff.2 hdigits
  have hempty : (decimal n).isEmpty = false := by simpa using decimal_ne_nil n
  have hread := ofText?_signedDecimal n
  rw [signedDecimal, if_neg (by omega), Int.natAbs_natCast, decide_eq_false (by omega)] at hread
  simp only [numericComparison?, operator?_append_decimal, Option.bind_eq_bind, Option.bind_some,
    hrest, hwhole, hempty, hread]
  rfl

end Property

namespace Scope

variable (s : Scope)

/-- **A number alone** is found in the whole number that is equal to it. -/
theorem matchesValue_signedDecimal (n a : ℤ) (exact : Bool) :
    s.matchesValue (signedDecimal n) (.int a) exact =
      .ok (decide (rounded n.natAbs < 2 ^ 1024 ∧
        a = if n < 0 then -(rounded n.natAbs : ℤ) else rounded n.natAbs)) := by
  have hbody := (matchesValue.eq_def s _ (.int a) exact).trans
    (if_neg (isNumeral_signedDecimal n).ne_null)
  rw [hbody, Property.numericComparison?_signedDecimal]
  simp only [Property.magnitude?, ofText?_signedDecimal, magnitude?_ofDecimal, Option.isSome_some,
    Bool.true_and, Option.some.injEq, wholeMagnitude_eq_ofRounded_iff, decide_eq_true_eq]

/-- **An operator in front of a number** compares the whole number with it. -/
theorem matchesValue_comparison (c : Comparison) (n : ℕ) (a : ℤ) (exact : Bool) :
    s.matchesValue (c.symbol.toList ++ decimal n) (.int a) exact =
      .ok (decide (c.Holds a (rounded n))) := by
  have hbody := (matchesValue.eq_def s _ (.int a) exact).trans
    (if_neg (isNumeral_comparison c n).ne_null)
  rw [hbody, Property.numericComparison?_decimal]
  simp only [Property.magnitude?, magnitude?_ofDecimal, compareNumbers_ofRounded]

/-- A numeral is compared with the one value that is found under the key. -/
theorem matchesText_numeral (hkey : IsPart key) (hv : IsNumeral v)
    (hvalue : Entries.get? s.properties (String.ofList key) = some (.int a)) :
    s.matchesText (String.ofList (bracketed key v)) = s.matchesValue v (.int a) false := by
  obtain ⟨hwrites, halternatives⟩ := Query.writesTest_alternative hkey hv.isAlternative
  obtain ⟨q, hq, heval⟩ := hwrites.exists_parse hkey.colon_not_mem halternatives
  have hvalues : s.valuesUnder (String.ofList key) = [.int a] := by
    rw [valuesUnder, hvalue]
    rfl
  rw [matchesText, hq]
  show s.evaluate q = _
  rw [heval, List.map_singleton, Verdict.any_singleton, matchesAlternative, hvalues,
    List.map_singleton, Verdict.any_singleton, trim_of_noBlank hv.noBlank]

/-- Of less, equal and greater exactly one is found. -/
theorem existsUnique_found {f : List Char → Verdict} {less equal greater : List Char}
    (hless : f less = .ok true ↔ Comparison.before.Holds a r)
    (hequal : f equal = .ok true ↔ r < 2 ^ 1024 ∧ a = r)
    (hgreater : f greater = .ok true ↔ Comparison.after.Holds a r) :
    ∃! v, v ∈ [less, equal, greater] ∧ f v = .ok true := by
  simp only [List.mem_cons, List.not_mem_nil, or_false]
  by_cases hbefore : Comparison.before.Holds a r
  · refine ⟨less, ⟨.inl rfl, hless.2 hbefore⟩, ?_⟩
    rintro v ⟨rfl | rfl | rfl, hv⟩
    · rfl
    · obtain ⟨hrange, heq⟩ := hequal.1 hv
      exact absurd heq (hbefore hrange).ne
    · obtain ⟨hrange, hgt⟩ := hgreater.1 hv
      exact absurd hgt (hbefore hrange).not_gt
  -- what is not below the number has a number to be compared with
  obtain ⟨hrange, hle⟩ : r < 2 ^ 1024 ∧ (r : ℤ) ≤ a := by
    rwa [Comparison.Holds, Classical.not_imp, not_lt] at hbefore
  rcases hle.eq_or_lt with heq | hlt
  · refine ⟨equal, ⟨.inr (.inl rfl), hequal.2 ⟨hrange, heq.symm⟩⟩, ?_⟩
    rintro v ⟨rfl | rfl | rfl, hv⟩
    · exact absurd (hless.1 hv) hbefore
    · rfl
    · exact absurd (hgreater.1 hv).2 heq.not_lt
  · refine ⟨greater, ⟨.inr (.inr rfl), hgreater.2 ⟨hrange, hlt⟩⟩, ?_⟩
    rintro v ⟨rfl | rfl | rfl, hv⟩
    · exact absurd (hless.1 hv) hbefore
    · exact absurd (hequal.1 hv).2 hlt.ne'
    · rfl

/-- **Whole numbers.**  Let `r` be the number of the format nearest to `n`, the sign apart: this is
`n` itself exactly if the significand of the format is long enough for it.  Then `[key:n]` finds
the whole numbers that are equal to `r`, with the sign of `n`, and where `n` is not negative the
comparisons with `n` are comparisons with `r`, from 2^1024 on with an infinity; so exactly one of
less, equal and greater is found. -/
theorem matchesText_number (hkey : IsPart key) (n : ℤ) :
    ∃ r, IsNearest n.natAbs r ∧ (r = n.natAbs ↔ IsWhole n.natAbs) ∧
      ∀ (s : Scope) (a : ℤ), Entries.get? s.properties (String.ofList key) = some (.int a) →
        s.matchesText (String.ofList (bracketed key (signedDecimal n))) =
          .ok (decide (r < 2 ^ 1024 ∧ a = if n < 0 then -(r : ℤ) else r)) ∧
        (0 ≤ n →
          (∀ c : Comparison,
            s.matchesText (String.ofList (bracketed key (c.symbol.toList ++ signedDecimal n))) =
              .ok (decide (c.Holds a r))) ∧
          ∃! v, v ∈ ['<' :: signedDecimal n, signedDecimal n, '>' :: signedDecimal n] ∧
            s.matchesText (String.ofList (bracketed key v)) = .ok true) := by
  have hnear := isNearest_rounded n.natAbs
  refine ⟨rounded n.natAbs, hnear, hnear.eq_iff, fun s a hvalue => ?_⟩
  have hequal : s.matchesText (String.ofList (bracketed key (signedDecimal n))) =
      .ok (decide (rounded n.natAbs < 2 ^ 1024 ∧
        a = if n < 0 then -(rounded n.natAbs : ℤ) else rounded n.natAbs)) := by
    rw [s.matchesText_numeral hkey (isNumeral_signedDecimal n) hvalue, matchesValue_signedDecimal]
  refine ⟨hequal, fun hn => ?_⟩
  have hcompare : ∀ c : Comparison,
      s.matchesText (String.ofList (bracketed key (c.symbol.toList ++ signedDecimal n))) =
        .ok (decide (c.Holds a (rounded n.natAbs))) := by
    intro c
    rw [signedDecimal, if_neg (by omega),
      s.matchesText_numeral hkey (isNumeral_comparison c n.natAbs) hvalue, matchesValue_comparison]
  refine ⟨hcompare, existsUnique_found (a := a) (r := rounded n.natAbs)
    (f := fun v => s.matchesText (String.ofList (bracketed key v))) ?_ ?_ ?_⟩
  · rw [show '<' :: signedDecimal n = Comparison.before.symbol.toList ++ signedDecimal n from rfl,
      hcompare, Except.ok.injEq, decide_eq_true_eq]
  · rw [hequal, Except.ok.injEq, decide_eq_true_eq, if_neg (by omega)]
  · rw [show '>' :: signedDecimal n = Comparison.after.symbol.toList ++ signedDecimal n from rfl,
      hcompare, Except.ok.injEq, decide_eq_true_eq]

/-- 2^53 + 1 is read as 2^53, so that `[effort:9007199254740993]` finds the property
9007199254740992. -/
theorem matchesText_number_rounded :
    let s : Scope :=
      { task := { path := "a.md" }, caseSensitive := false, settings := {}
        properties := [("effort", .int 9007199254740992)], clock := ⟨2024, 1, 10, by decide⟩ }
    IsPart "effort".toList ∧
      Entries.get? s.properties "effort" = some (.int 9007199254740992) ∧
      s.matchesText "[effort:9007199254740993]" = .ok true ∧
      s.matchesText "[effort:<9007199254740993]" = .ok false ∧
      s.matchesText "[effort:>=9007199254740993]" = .ok true := by
  intro s
  have hkey : IsPart "effort".toList := Query.isPart_of_isAsciiLetter (by decide) (by decide)
  have hvalue : Entries.get? s.properties "effort" = some (.int 9007199254740992) := rfl
  obtain ⟨r, hnear, -, hfound⟩ := matchesText_number hkey 9007199254740993
  have hr : r = 9007199254740992 := by
    rw [hnear.unique (isNearest_rounded _)]
    exact rounded_two_pow_53_succ
  subst hr
  obtain ⟨hequal, hcompare⟩ := hfound s 9007199254740992 hvalue
  obtain ⟨hcompare, -⟩ := hcompare (by decide)
  exact ⟨hkey, hvalue, hequal.trans (by decide +kernel),
    (hcompare .before).trans (by decide +kernel), (hcompare .notBefore).trans (by decide +kernel)⟩

/-- Whole numbers are not always compared as they are written: `[k:9007199254740993]` does not find
the property 9007199254740993. -/
theorem not_all_numbers_exact :
    ¬∀ (s : Scope) (key : List Char) (a n : ℤ), IsPart key →
      Entries.get? s.properties (String.ofList key) = some (.int a) →
        (s.matchesText (String.ofList (bracketed key (signedDecimal n))) = .ok true ↔ a = n) := by
  intro h
  let s : Scope :=
    { task := { path := "a.md" }, caseSensitive := false, settings := {}
      properties := [("k", .int 9007199254740993)], clock := ⟨2024, 1, 10, by decide⟩ }
  have hkey : IsPart ['k'] := Query.isPart_of_isAsciiLetter (by decide) (by decide)
  have hvalue : Entries.get? s.properties (String.ofList ['k']) =
      some (.int 9007199254740993) := rfl
  have hfound := (h s ['k'] 9007199254740993 9007199254740993 hkey hvalue).2 rfl
  rw [s.matchesText_numeral hkey (isNumeral_signedDecimal _) hvalue, matchesValue_signedDecimal,
    Except.ok.injEq, decide_eq_true_eq] at hfound
  rw [show (9007199254740993 : ℤ).natAbs = 9007199254740993 from rfl,
    rounded_two_pow_53_succ] at hfound
  exact absurd hfound.2 (by decide)

end Scope

end TaskQuery
