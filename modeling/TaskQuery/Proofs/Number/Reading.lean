import Mathlib.Data.List.TakeWhile
import TaskQuery.Number.Reader
import TaskQuery.Proofs.Text.Decimal
import TaskQuery.Proofs.Text.Lowering

/-!
# Reading floating-point numbers

What is read as a floating-point number, and what is not.

* `ofText?_signedDecimal`: the decimal digits of a whole number, with its sign, are read as the
  number that is nearest to it.
* `ofText?_eq_none_of_quote`: a text with a double quote is no number.
-/

namespace TaskQuery

namespace Text

/-- A digit is its own lower case. -/
theorem map_toLower_of_isDigit {s : List Char} (h : ∀ c ∈ s, c.isDigit = true) :
    s.map Char.toLower = s := by
  refine (List.map_congr_left fun c hc => ?_).trans (List.map_id s)
  have hdigit := toNat_of_isDigit (h c hc)
  exact toLower_of_isSign ⟨by omega, by omega⟩

end Text

open Text

namespace Binary64

variable {s digits : List Char} {c : Char} {negative : Bool}

/-! ## Digits -/

/-- ASCII digits stay as they are. -/
theorem asciiDigit_of_isDigit (h : c.isDigit = true) : asciiDigit c = c := by
  have hc := toNat_of_isDigit h
  have hdigit : (Nat.digitChar (c.toNat - 48)).toNat = c.toNat := by
    rw [Nat.toNat_digitChar_of_lt_ten (by omega)]
    omega
  rw [asciiDigit, digitValue?_of_isDigit h]
  exact Char.toNat_inj.1 hdigit

/-- Without underscores nothing is left out. -/
theorem dropUnderscores?_of_not_mem (h : '_' ∉ s) (afterDigit : Bool) :
    dropUnderscores? afterDigit s = some s := by
  induction s generalizing afterDigit with
  | nil => cases afterDigit <;> rfl
  | cons c s ih =>
    obtain ⟨hc, hs⟩ := not_or.1 (mt List.mem_cons.2 h)
    rw [dropUnderscores?, ih hs, Option.map_some]
    · exact Ne.symm hc
    · rintro d ds - rfl
      exact absurd rfl hc

/-- Only underscores are left out. -/
theorem eq_filter_of_dropUnderscores? {afterDigit : Bool} {plain : List Char}
    (h : dropUnderscores? afterDigit s = some plain) : plain = s.filter (· ≠ '_') := by
  induction afterDigit, s using dropUnderscores?.induct generalizing plain with
  | case1 afterDigit =>
    rw [dropUnderscores?] at h
    exact (Option.some.inj h).symm
  | case2 c cs hc ih =>
    have hne : c ≠ '_' := by
      rintro rfl
      cases hc
    rw [dropUnderscores?, if_pos hc, Option.map_eq_some_iff] at h
    obtain ⟨rest, hrest, rfl⟩ := h
    rw [ih hrest]
    simp [hne]
  | case3 c cs hc =>
    rw [dropUnderscores?, if_neg hc] at h
    cases h
  | case4 afterDigit cs hpair =>
    rw [dropUnderscores?] at h
    · cases h
    · exact hpair
  | case5 afterDigit c cs hc hpair ih =>
    rw [dropUnderscores?, Option.map_eq_some_iff] at h
    · obtain ⟨rest, hrest, rfl⟩ := h
      rw [ih hrest, List.filter_cons_of_pos (by simpa using hc)]
    · exact hc
    · exact hpair

/-- The digits of a number have its value. -/
theorem digitsValue_decimal (n : Nat) : digitsValue (decimal n) = n := Nat.ofDigitChars_ten_toDigits

/-- Digits alone are a number. -/
theorem unsigned?_of_isDigit (hne : s ≠ []) (h : ∀ c ∈ s, c.isDigit = true) :
    unsigned? negative s = some (ofDecimal negative (digitsValue s) 0) := by
  have hwhole : s.takeWhile Char.isDigit = s := List.takeWhile_eq_self_iff.2 h
  have hrest : s.dropWhile Char.isDigit = [] := List.dropWhile_eq_nil_iff.2 h
  have hempty : s.isEmpty = false := by simpa using hne
  simp only [unsigned?, hwhole, hrest, fraction, exponent?, hempty, Bool.false_and,
    Bool.false_eq_true, if_false, Option.bind_eq_bind, Option.bind_some, List.append_nil]
  rfl

/-- Digits behind a sign, or without one, are a number. -/
theorem ofText?_of_signed (hplain : dropUnderscores? false (s.map asciiDigit) = some s)
    (hsigned : signed s = (negative, digits)) (hne : digits ≠ [])
    (h : ∀ c ∈ digits, c.isDigit = true) :
    ofText? s = some (ofDecimal negative (digitsValue digits) 0) := by
  have hname : ∀ name : String, name.toList.all Char.isDigit = false →
      String.ofList (digits.map Char.toLower) ≠ name := by
    rintro name hname rfl
    rw [map_toLower_of_isDigit h, String.toList_ofList, List.all_eq_true.2 h] at hname
    cases hname
  rw [ofText?, hplain]
  simp only [Option.bind_eq_bind, Option.bind_some, hsigned]
  split
  · next heq => exact absurd heq (hname _ (by decide))
  · next heq => exact absurd heq (hname _ (by decide))
  · next heq => exact absurd heq (hname _ (by decide))
  · exact unsigned?_of_isDigit hne h

/-- The sign is found in front of the digits. -/
theorem signed_signedDecimal (n : Int) :
    signed (signedDecimal n) = (decide (n < 0), decimal n.natAbs) := by
  rw [signedDecimal]
  split
  · next hn =>
    rw [decide_eq_true hn]
    rfl
  · next hn =>
    rw [decide_eq_false hn]
    unfold signed
    split
    · next heq => exact absurd (congrArg List.head? heq) (head?_decimal_ne (by decide) _)
    · next heq => exact absurd (congrArg List.head? heq) (head?_decimal_ne (by decide) _)
    · rfl

/-- **A whole number in decimal is read as the nearest number of the format.** -/
theorem ofText?_signedDecimal (n : Int) :
    ofText? (signedDecimal n) = some (ofDecimal (n < 0) n.natAbs 0) := by
  have hascii : (signedDecimal n).map asciiDigit = signedDecimal n := by
    refine (List.map_congr_left fun c hc => ?_).trans (List.map_id _)
    rcases mem_signedDecimal hc with rfl | hc
    · decide
    · exact asciiDigit_of_isDigit hc
  have hunder : '_' ∉ signedDecimal n := by
    intro h
    exact absurd (mem_signedDecimal h) (by decide)
  have hplain : dropUnderscores? false ((signedDecimal n).map asciiDigit) =
      some (signedDecimal n) := by
    rw [hascii]
    exact dropUnderscores?_of_not_mem hunder false
  rw [ofText?_of_signed hplain (signed_signedDecimal n) (decimal_ne_nil _)
    fun _ => isDigit_of_mem_decimal, digitsValue_decimal]

/-! ## Quotes -/

/-- A quote stays behind a sign. -/
theorem quote_mem_signed (h : '"' ∈ s) : '"' ∈ (signed s).2 := by
  unfold signed
  split <;> simpa using h

/-- A quote stays behind digits. -/
theorem quote_mem_dropWhile (h : '"' ∈ s) : '"' ∈ s.dropWhile Char.isDigit := by
  rw [← List.takeWhile_append_dropWhile (p := Char.isDigit) (l := s), List.mem_append] at h
  refine h.resolve_left fun hmem => ?_
  have hdigit := List.all_eq_true.1 List.all_takeWhile _ hmem
  cases hdigit

/-- A quote stays behind a fraction. -/
theorem quote_mem_fraction (h : '"' ∈ s) : '"' ∈ (fraction s).2 := by
  unfold fraction
  split
  · exact quote_mem_dropWhile (by simpa using h)
  · exact h

/-- There is no quote in an exponent. -/
theorem exponent?_eq_none_of_quote (h : '"' ∈ s) : exponent? s = none := by
  cases s with
  | nil => cases h
  | cons c cs =>
    rw [exponent?]
    split
    · next hc =>
      have hmem : '"' ∈ cs := by
        refine (List.mem_cons.1 h).resolve_left ?_
        rintro rfl
        cases hc
      have hall : (signed cs).2.all Char.isDigit = false :=
        List.all_eq_false.2 ⟨'"', quote_mem_signed hmem, by decide⟩
      simp [hall]
    · rfl

/-- **A text with a double quote is no number.** -/
theorem ofText?_eq_none_of_quote (h : '"' ∈ s) : ofText? s = none := by
  rw [ofText?]
  cases hplain : dropUnderscores? false (s.map asciiDigit) with
  | none => rfl
  | some plain =>
    have hmem : '"' ∈ (signed plain).2 := by
      have hascii : '"' ∈ s.map asciiDigit := List.mem_map.2 ⟨'"', h, by decide⟩
      rw [eq_filter_of_dropUnderscores? hplain]
      exact quote_mem_signed (List.mem_filter.2 ⟨hascii, by decide⟩)
    have hname : ∀ name : String, '"' ∉ name.toList →
        String.ofList ((signed plain).2.map Char.toLower) ≠ name := by
      rintro name hname rfl
      rw [String.toList_ofList] at hname
      exact hname (List.mem_map.2 ⟨'"', hmem, by decide⟩)
    simp only [Option.bind_eq_bind, Option.bind_some]
    split
    · next heq => exact absurd heq (hname _ (by decide))
    · next heq => exact absurd heq (hname _ (by decide))
    · next heq => exact absurd heq (hname _ (by decide))
    · have hrest := exponent?_eq_none_of_quote (quote_mem_fraction (quote_mem_dropWhile hmem))
      rw [unsigned?]
      simp only [hrest]
      split <;> rfl

end Binary64

end TaskQuery
