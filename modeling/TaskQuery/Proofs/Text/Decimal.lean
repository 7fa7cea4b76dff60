import Mathlib.Algebra.Group.Nat.Defs
import Mathlib.Data.List.Induction
import TaskQuery.Text.Digit

/-!
# Reading decimal numbers back

The digits of every script are read as numbers, but numbers are written in ASCII digits.

* `readDigits?_of_isDigit`: a text of ASCII digits is read as the number it writes.
* `readDigits?_paddedDecimal`: a written number is read back, with zeros in front or without.
* `length_paddedDecimal`: a number that fits its width takes up exactly the width.
* `wholeNumber?_paddedDecimal`: a number with too many digits is not read, any other is.
* `eq_of_ofDigitChars_eq`, `eq_paddedDecimal_iff`: digits are known by the number that they write
  and by how many they are.
-/

namespace TaskQuery.Text

/-- The codes of the digits. -/
theorem toNat_of_isDigit {c : Char} (h : c.isDigit = true) : 48 ≤ c.toNat ∧ c.toNat ≤ 57 := by
  simpa [Char.isDigit, UInt32.le_iff_toNat_le] using h

/-- The value of an ASCII digit. -/
theorem digitValue?_of_isDigit {c : Char} (h : c.isDigit = true) :
    digitValue? c = some (c.toNat - 48) := by
  have hc := toNat_of_isDigit h
  have hfind : (digitZeros.find? fun z => z ≤ c.toNat && c.toNat < z + 10) = some 48 := by
    rw [digitZeros, List.find?_cons_of_pos]
    simp only [Bool.and_eq_true, decide_eq_true_eq]
    omega
  rw [digitValue?, hfind, Option.map_some]

/-- A text of ASCII digits is read as the number it writes. -/
theorem readDigits?_of_isDigit {s : List Char} (h : ∀ c ∈ s, c.isDigit = true) (n : Nat) :
    readDigits? n s = some (Nat.ofDigitChars 10 s n) := by
  induction s generalizing n with
  | nil => rw [readDigits?, Nat.ofDigitChars_nil]
  | cons c s ih =>
    have hc := digitValue?_of_isDigit (h c List.mem_cons_self)
    rw [readDigits?, hc, Nat.ofDigitChars_cons]
    exact ih (fun d hd => h d (List.mem_cons_of_mem c hd)) _

/-- Digits write a number below the power of ten of their count. -/
theorem ofDigitChars_lt {s : List Char} (h : ∀ c ∈ s, c.isDigit = true) {bound n : Nat}
    (hn : n < bound) :
    Nat.ofDigitChars 10 s n < bound * 10 ^ s.length := by
  induction s generalizing n bound with
  | nil => simpa using hn
  | cons c s ih =>
    obtain ⟨hc, hs⟩ := List.forall_mem_cons.1 h
    have hdigit := toNat_of_isDigit hc
    have hnext : 10 * n + (c.toNat - '0'.toNat) < bound * 10 := by
      have : '0'.toNat = 48 := rfl
      omega
    rw [Nat.ofDigitChars_cons, List.length_cons, Nat.pow_succ, Nat.mul_comm (10 ^ s.length) 10,
      ← Nat.mul_assoc]
    exact ih hs hnext

/-- Digits are known by the number that they write and by how many they are. -/
theorem eq_of_ofDigitChars_eq {s t : List Char} (hs : ∀ c ∈ s, c.isDigit = true)
    (ht : ∀ c ∈ t, c.isDigit = true) (hlength : s.length = t.length)
    (h : Nat.ofDigitChars 10 s 0 = Nat.ofDigitChars 10 t 0) : s = t := by
  induction s using List.reverseRecOn generalizing t with
  | nil => exact (List.length_eq_zero_iff.1 hlength.symm).symm
  | append_singleton s c ih =>
    obtain rfl | ⟨t, d, rfl⟩ := List.eq_nil_or_concat t
    · simp at hlength
    rw [List.concat_eq_append] at ht hlength h ⊢
    rw [List.length_append, List.length_append] at hlength
    obtain ⟨hs, hc⟩ := List.forall_mem_append.1 hs
    obtain ⟨ht, hd⟩ := List.forall_mem_append.1 ht
    have hc := toNat_of_isDigit (hc c List.mem_cons_self)
    have hd := toNat_of_isDigit (hd d List.mem_cons_self)
    have hzero : '0'.toNat = 48 := rfl
    rw [Nat.ofDigitChars_append, Nat.ofDigitChars_append, Nat.ofDigitChars_cons,
      Nat.ofDigitChars_cons, Nat.ofDigitChars_nil, Nat.ofDigitChars_nil] at h
    -- the last digit is what is left over by ten
    have hlast : c = d := Char.toNat_inj.1 (by omega)
    rw [hlast, ih hs ht (Nat.add_right_cancel hlength) (by omega)]

/-! ## Written numbers -/

/-- A number is written with digits. -/
theorem isDigit_of_mem_decimal {n : Nat} {c : Char} (h : c ∈ decimal n) : c.isDigit = true :=
  Nat.isDigit_of_mem_toDigits (by decide) (by decide) h

/-- A number is written without a zero in front, but for zero itself. -/
theorem exists_decimal_eq_cons (n : Nat) :
    ∃ c s, decimal n = c :: s ∧ c.isDigit = true ∧ (c = '0' → s = []) := by
  induction n using Nat.strongRecOn with
  | ind n ih =>
    by_cases hn : n < 10
    · refine ⟨n.digitChar, [], Nat.toDigits_of_lt_base hn, ?_, fun _ => rfl⟩
      exact isDigit_of_mem_decimal (n := n) (by rw [decimal, Nat.toDigits_of_lt_base hn]; simp)
    · obtain ⟨c, s, hfront, hc, hzero⟩ := ih (n / 10) (by omega)
      have happend : decimal n = decimal (n / 10) ++ [(n % 10).digitChar] :=
        Nat.toDigits_of_base_le (by decide) (by omega)
      refine ⟨c, s ++ [(n % 10).digitChar], by rw [happend, hfront]; rfl, hc, fun h => ?_⟩
      have hval : Nat.ofDigitChars 10 (decimal (n / 10)) 0 = n / 10 := Nat.ofDigitChars_ten_toDigits
      rw [hfront, h, hzero h] at hval
      have : n / 10 = 0 := hval.symm
      omega

/-- Every number has a digit. -/
theorem decimal_ne_nil (n : Nat) : decimal n ≠ [] := by
  obtain ⟨c, s, hcons, -⟩ := exists_decimal_eq_cons n
  rw [hcons]
  exact List.cons_ne_nil c s

/-- A number in decimal does not start with a sign. -/
theorem head?_decimal_ne {c : Char} (hc : c.isDigit = false) (n : Nat) :
    (decimal n).head? ≠ some c := by
  intro h
  rw [isDigit_of_mem_decimal (List.mem_of_mem_head? h)] at hc
  cases hc

/-- A number with a sign is written with digits and a dash. -/
theorem mem_signedDecimal {n : Int} {c : Char} (h : c ∈ signedDecimal n) :
    c = '-' ∨ c.isDigit = true := by
  rw [signedDecimal] at h
  split at h
  · exact (List.mem_cons.1 h).imp_right isDigit_of_mem_decimal
  · exact .inr (isDigit_of_mem_decimal h)

/-- Every number with a sign has a character. -/
theorem signedDecimal_ne_nil (n : Int) : signedDecimal n ≠ [] := by
  rw [signedDecimal]
  split
  · exact List.cons_ne_nil _ _
  · exact decimal_ne_nil _

/-- A padded number is written with digits. -/
theorem isDigit_of_mem_paddedDecimal {width n : Nat} {c : Char} (h : c ∈ paddedDecimal width n) :
    c.isDigit = true := by
  rw [paddedDecimal, List.mem_append, List.mem_replicate] at h
  rcases h with ⟨-, rfl⟩ | h
  · decide
  · exact isDigit_of_mem_decimal h

/-- A padded number is read back. -/
theorem ofDigitChars_paddedDecimal (width n : Nat) :
    Nat.ofDigitChars 10 (paddedDecimal width n) 0 = n := by
  rw [paddedDecimal, Nat.ofDigitChars_append, Nat.ofDigitChars_replicate_zero, Nat.mul_zero,
    decimal, Nat.ofDigitChars_ten_toDigits]

/-- Different numbers are padded to different texts. -/
theorem paddedDecimal_injective (width : Nat) : Function.Injective (paddedDecimal width) := by
  intro a b h
  rw [← ofDigitChars_paddedDecimal width a, h, ofDigitChars_paddedDecimal]

/-- A padded number has no dash. -/
theorem dash_not_mem_paddedDecimal {width n : Nat} : '-' ∉ paddedDecimal width n := by
  intro h
  have hdigit := isDigit_of_mem_paddedDecimal h
  simp at hdigit

/-- A number is read back from its digits with zeros in front. -/
theorem readDigits?_paddedDecimal (width n : Nat) :
    readDigits? 0 (paddedDecimal width n) = some n := by
  rw [readDigits?_of_isDigit fun c => isDigit_of_mem_paddedDecimal, ofDigitChars_paddedDecimal]

/-- A number that fits the width is padded to the width. -/
theorem length_paddedDecimal {width n : Nat} (hw : 0 < width) (hn : n < 10 ^ width) :
    (paddedDecimal width n).length = width := by
  have hlen : (decimal n).length ≤ width := (Nat.length_toDigits_le_iff (by decide) hw).2 hn
  rw [paddedDecimal, List.length_append, List.length_replicate]
  omega

/-- Padding makes no number longer than what it is padded to. -/
theorem length_paddedDecimal_le_iff {width bound n : Nat} (hw : width ≤ bound) :
    (paddedDecimal width n).length ≤ bound ↔ (decimal n).length ≤ bound := by
  rw [paddedDecimal, List.length_append, List.length_replicate]
  omega

/-- A number with more digits is at least that power of ten. -/
theorem pow_le_of_length_decimal {bound n : Nat} (hb : 0 < bound)
    (h : bound < (decimal n).length) : 10 ^ bound ≤ n := by
  apply Nat.le_of_not_lt
  intro hn
  have hshort : (decimal n).length ≤ bound := (Nat.length_toDigits_le_iff (by decide) hb).2 hn
  omega

/-- **A number is read as long as it has no more digits than are read**, zeros in front counted. -/
theorem wholeNumber?_paddedDecimal {width n : Nat}
    (h : (paddedDecimal width n).length ≤ maxNumberDigits) :
    wholeNumber? (paddedDecimal width n) = some n := by
  have hne : paddedDecimal width n ≠ [] :=
    List.append_ne_nil_of_right_ne_nil _ (decimal_ne_nil n)
  rw [wholeNumber?, if_neg (by simpa [hne] using h), readDigits?_paddedDecimal]

/-- More digits than are read give no number. -/
theorem wholeNumber?_of_length_gt {s : List Char} (h : maxNumberDigits < s.length) :
    wholeNumber? s = none := by
  rw [wholeNumber?, if_pos (by simp [h])]

/-- Digits are a number with zeros in front if they write the number. -/
theorem eq_paddedDecimal_iff {s : List Char} {width n : Nat} (hs : ∀ c ∈ s, c.isDigit = true)
    (hlength : s.length = width) (hw : 0 < width) :
    s = paddedDecimal width n ↔ Nat.ofDigitChars 10 s 0 = n := by
  constructor
  · rintro rfl
    exact ofDigitChars_paddedDecimal width n
  · intro h
    have hlt := ofDigitChars_lt hs Nat.zero_lt_one
    rw [Nat.one_mul, hlength, h] at hlt
    exact eq_of_ofDigitChars_eq hs (fun c => isDigit_of_mem_paddedDecimal)
      (hlength.trans (length_paddedDecimal hw hlt).symm)
      (h.trans (ofDigitChars_paddedDecimal width n).symm)

end TaskQuery.Text
