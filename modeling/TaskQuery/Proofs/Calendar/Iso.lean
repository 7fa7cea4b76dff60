import TaskQuery.Calendar.Iso
import TaskQuery.Proofs.DateFilter.IsoText

/-!
# ISO dates read back

The text of a date is one of the forms that are read as an ISO date: ten bytes in ASCII, with
dashes behind the year and the month.

* `isoDigits?_paddedDecimal`: the parts of the date.
* `ofIso?_text`: the whole date.
-/

namespace TaskQuery

open Text

/-- A digit of a decimal is an ASCII digit. -/
theorem Text.isAsciiDigit_of_isDigit {c : Char} (h : c.isDigit = true) : isAsciiDigit c = true := by
  have hc := toNat_of_isDigit h
  simp only [isAsciiDigit, Bool.and_eq_true, decide_eq_true_eq, Char.le_def, UInt32.le_iff_toNat_le]
  exact hc

namespace Date

variable {s : List Char}

/-- Digits in front are read as the number that they write. -/
theorem isoDigits?_append (h : ∀ c ∈ s, c.isDigit = true) (n : Nat) (rest : List Char) :
    isoDigits? s.length n (s ++ rest) = some (Nat.ofDigitChars 10 s n, rest) := by
  induction s generalizing n with
  | nil => rfl
  | cons c s ih =>
    obtain ⟨hc, hs⟩ := List.forall_mem_cons.1 h
    rw [List.length_cons, List.cons_append, isoDigits?, if_pos (isAsciiDigit_of_isDigit hc),
      Nat.ofDigitChars_cons]
    exact ih hs _

/-- A number that fits its width is read back from its digits. -/
theorem isoDigits?_paddedDecimal {width n : Nat} (hw : 0 < width) (hn : n < 10 ^ width)
    (rest : List Char) :
    isoDigits? width 0 (paddedDecimal width n ++ rest) = some (n, rest) := by
  have hdigits : ∀ c ∈ paddedDecimal width n, c.isDigit = true :=
    fun c => isDigit_of_mem_paddedDecimal
  have hvalue : Nat.ofDigitChars 10 (paddedDecimal width n) 0 = n := by
    have hread := readDigits?_paddedDecimal width n
    rw [readDigits?_of_isDigit hdigits] at hread
    exact Option.some.inj hread
  have happend := isoDigits?_append hdigits 0 rest
  rwa [length_paddedDecimal hw hn, hvalue] at happend

/-- A text of ASCII characters has one byte for each of them. -/
theorem utf8ByteSize_ofList (h : ∀ c ∈ s, c.toNat < 128) :
    (String.ofList s).utf8ByteSize = s.length := by
  induction s with
  | nil => rfl
  | cons c s ih =>
    obtain ⟨hc, hs⟩ := List.forall_mem_cons.1 h
    have hsize : c.utf8Size = 1 := by
      rw [Char.utf8Size_eq_one_iff, UInt32.le_iff_toNat_le]
      exact Nat.le_of_lt_succ hc
    rw [String.ofList_cons, String.utf8ByteSize_append, String.utf8ByteSize_singleton, hsize, ih hs,
      List.length_cons, Nat.add_comm]

/-- No month has more than 31 days. -/
theorem daysInMonth_le (year month : Nat) : daysInMonth year month ≤ 31 := by
  unfold daysInMonth
  split
  · split <;> decide
  all_goals decide

variable (d : Date)

/-- Years have four digits. -/
theorem year_lt : d.year < 10 ^ 4 := Nat.lt_of_le_of_lt d.isDate.2.1 (by decide)

/-- Months have two digits. -/
theorem month_lt : d.month < 10 ^ 2 := Nat.lt_of_le_of_lt d.isDate.2.2.2.1 (by decide)

/-- Days of the month have two digits. -/
theorem day_lt : d.day < 10 ^ 2 :=
  Nat.lt_of_le_of_lt (Nat.le_trans d.isDate.2.2.2.2.2 (daysInMonth_le _ _)) (by decide)

/-- A date is written with ten characters. -/
theorem length_text : d.text.length = 10 := by
  rw [text, List.length_append, List.length_cons, List.length_append, List.length_cons,
    length_paddedDecimal (by decide) d.year_lt, length_paddedDecimal (by decide) d.month_lt,
    length_paddedDecimal (by decide) d.day_lt]

/-- Behind the year, the month and the day are read back as they are written. -/
theorem isoMonth?_text : isoMonth? d.year true (paddedDecimal 2 d.month ++
    '-' :: paddedDecimal 2 d.day) = some d := by
  have hday := isoDigits?_paddedDecimal (show 0 < 2 by decide) d.day_lt []
  rw [List.append_nil] at hday
  rw [isoMonth?, isoDigits?_paddedDecimal (by decide) d.month_lt]
  simp only [Option.bind_eq_bind, Option.bind_some, if_true, hday, d.ofParts?_eq]

/-- The text of a date is read as that date. -/
theorem ofIso?_text : ofIso? d.text = some d := by
  have hsize : (String.ofList d.text).utf8ByteSize = 10 := by
    rw [utf8ByteSize_ofList fun c hc => (d.isLower_text c hc).1, length_text]
  have htext : d.text = paddedDecimal 4 d.year ++
      '-' :: (paddedDecimal 2 d.month ++ '-' :: paddedDecimal 2 d.day) := by
    rw [text, List.append_assoc]
    rfl
  have hyear : isoDigits? 4 0 d.text =
      some (d.year, '-' :: (paddedDecimal 2 d.month ++ '-' :: paddedDecimal 2 d.day)) := by
    rw [htext]
    exact isoDigits?_paddedDecimal (by decide) d.year_lt _
  have hweek : ∀ r, paddedDecimal 2 d.month ++ '-' :: paddedDecimal 2 d.day ≠ 'W' :: r := by
    intro r heq
    have hmem : 'W' ∈ d.text := by
      rw [htext, heq]
      simp
    exact d.not_mem_text (by decide) (by decide) hmem
  rw [ofIso?, if_pos (.inr (.inr hsize)), hyear]
  simp only [Option.bind_eq_bind, Option.bind_some]
  exact d.isoMonth?_text

end Date

end TaskQuery
