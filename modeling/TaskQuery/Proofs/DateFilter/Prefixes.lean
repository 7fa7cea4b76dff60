import TaskQuery.Proofs.Calendar.Iso
import TaskQuery.Proofs.Calendar.Months
import TaskQuery.Proofs.DateFilter.IsoText

/-!
# What dates start with

The text of a date starts with its year, and with its year and month.  A text of one of the three
shapes writes a period, and the days of the period are those that start with the text.

* `Precision.textOf`: what the text of a date starts with.
* `Precision.Shape`: the texts `YYYY-MM-DD`, `YYYY-MM` and `YYYY`, whether they name a day or not.
* `Period.ofDigits?_of_shape`: such a text is what some date starts with, or it writes nothing.
* `Period.any_contains_ofDigits?`: its period holds the dates that start with it, unless it is what
  the last day of the calendar starts with.
-/

namespace TaskQuery

open Text

/-- So many digits of ASCII. -/
def IsDigits (count : Nat) (s : List Char) : Prop := s.length = count ∧ ∀ c ∈ s, c.isDigit = true

/-- Whether a text is so many digits can be checked. -/
instance (count : Nat) (s : List Char) : Decidable (IsDigits count s) :=
  have : Decidable (∀ c ∈ s, c.isDigit = true) := List.decidableBAll _ s
  inferInstanceAs (Decidable (_ ∧ _))

/-- Digits write a number with zeros in front. -/
theorem IsDigits.exists_eq {count : Nat} {s : List Char} (h : IsDigits count s) (hpos : 0 < count) :
    ∃ n < 10 ^ count, s = paddedDecimal count n := by
  have hlt := ofDigitChars_lt h.2 Nat.zero_lt_one
  rw [Nat.one_mul, h.1] at hlt
  exact ⟨_, hlt, (eq_paddedDecimal_iff h.2 h.1 hpos).2 rfl⟩

namespace Precision

variable {precision : Precision} {s : List Char} {d e : Date}

/-- What the text of a date starts with: all of it, the year and the month, or the year. -/
def textOf (d : Date) : Precision → List Char
  | day => d.text
  | month => paddedDecimal 4 d.year ++ '-' :: paddedDecimal 2 d.month
  | year => paddedDecimal 4 d.year

/-- The texts of digits written `YYYY-MM-DD`, `YYYY-MM` and `YYYY`. -/
inductive Shape : Precision → List Char → Prop
  | day {y m d : List Char} (hy : IsDigits 4 y) (hm : IsDigits 2 m) (hd : IsDigits 2 d) :
    Shape day (y ++ '-' :: m ++ '-' :: d)
  | month {y m : List Char} (hy : IsDigits 4 y) (hm : IsDigits 2 m) : Shape month (y ++ '-' :: m)
  | year {y : List Char} (hy : IsDigits 4 y) : Shape year y

/-- The text of a date to a precision is the front of its text. -/
theorem prefix_text_textOf (d : Date) (precision : Precision) : precision.textOf d <+: d.text := by
  cases precision with
  | day => exact List.prefix_rfl
  | month => exact List.prefix_append _ _
  | year =>
    rw [Date.text, List.append_assoc]
    exact List.prefix_append _ _

/-- A year and a month are written with seven characters. -/
theorem length_yearMonth {year month : Nat} (hyear : year < 10 ^ 4) (hmonth : month < 10 ^ 2) :
    (paddedDecimal 4 year ++ '-' :: paddedDecimal 2 month).length = 7 := by
  rw [List.length_append, List.length_cons, length_paddedDecimal (by decide) hyear,
    length_paddedDecimal (by decide) hmonth]

/-- All texts of a shape have one length. -/
theorem Shape.length_eq (h : Shape precision s) (d : Date) :
    s.length = (precision.textOf d).length := by
  cases h with
  | day hy hm hd =>
    rw [textOf, d.length_text]
    simp [hy.1, hm.1, hd.1]
  | month hy hm =>
    rw [textOf, length_yearMonth d.year_lt d.month_lt]
    simp [hy.1, hm.1]
  | year hy => rw [textOf, length_paddedDecimal (by decide) d.year_lt, hy.1]

/-- A text of the shape is in front of a date if it is what the date starts with. -/
theorem prefix_text_iff (h : Shape precision s) : s <+: d.text ↔ precision.textOf d = s := by
  have hlength := h.length_eq d
  constructor
  · intro hs
    have hfront := List.prefix_of_prefix_length_le hs (prefix_text_textOf d precision)
      (Nat.le_of_eq hlength)
    exact (hfront.eq_of_length hlength).symm
  · rintro rfl
    exact prefix_text_textOf d precision

/-- What has the shape of a date, a month or a year is like a date. -/
theorem Shape.isDateLike (h : Shape precision s) : IsDateLike s := by
  have hfirst : ∀ {y : List Char}, IsDigits 4 y → ∀ t, (y ++ t).head?.any Char.isDigit = true := by
    rintro (_ | ⟨c, y⟩) ⟨hlength, hdigits⟩ t
    · cases hlength
    · exact hdigits c List.mem_cons_self
  cases h with
  | day hy hm hd =>
    refine ⟨?_, by rw [List.append_assoc]; exact hfirst hy _⟩
    simp only [List.mem_append, List.mem_cons]
    rintro c ((hc | rfl | hc) | rfl | hc)
    · exact .inl (hy.2 c hc)
    · exact .inr rfl
    · exact .inl (hm.2 c hc)
    · exact .inr rfl
    · exact .inl (hd.2 c hc)
  | month hy hm =>
    refine ⟨?_, hfirst hy _⟩
    simp only [List.mem_append, List.mem_cons]
    rintro c (hc | rfl | hc)
    · exact .inl (hy.2 c hc)
    · exact .inr rfl
    · exact .inl (hm.2 c hc)
  | year hy =>
    refine ⟨fun c hc => .inl (hy.2 c hc), ?_⟩
    rw [← List.append_nil s]
    exact hfirst hy []

/-- Two numbers written one after the other are known from the text. -/
theorem eq_of_yearMonth_eq {year year' month month' : Nat} (hyear : year < 10 ^ 4)
    (hyear' : year' < 10 ^ 4)
    (h : paddedDecimal 4 year ++ '-' :: paddedDecimal 2 month =
      paddedDecimal 4 year' ++ '-' :: paddedDecimal 2 month') : year = year' ∧ month = month' := by
  have hlength : (paddedDecimal 4 year).length = (paddedDecimal 4 year').length := by
    rw [length_paddedDecimal (by decide) hyear, length_paddedDecimal (by decide) hyear']
  obtain ⟨hfront, hback⟩ := List.append_inj h hlength
  exact ⟨paddedDecimal_injective 4 hfront, paddedDecimal_injective 2 (List.cons.inj hback).2⟩

/-- Dates start with the same text if they are the same to this precision. -/
theorem textOf_eq_iff : precision.textOf d = precision.textOf e ↔ precision.Agrees d e := by
  cases precision with
  | day =>
    constructor
    · intro h
      have hread := d.ofIso?_text
      rw [show d.text = e.text from h, e.ofIso?_text] at hread
      exact (Option.some.inj hread).symm
    · rintro rfl
      rfl
  | month =>
    show _ ↔ d.monthIndex = e.monthIndex
    rw [Date.monthIndex_eq_iff]
    constructor
    · exact eq_of_yearMonth_eq d.year_lt e.year_lt
    · rintro ⟨hyear, hmonth⟩
      rw [textOf, textOf, hyear, hmonth]
  | year => exact (paddedDecimal_injective 4).eq_iff

end Precision

/-! ## Periods -/

namespace Period

variable {precision : Precision} {s : List Char} {d e : Date}

/-- The parts of a text decide between the two ways below. -/
theorem ofDigits?_of_parts (parts : Option Date)
    (hread : ofDigits? s = parts.bind fun e => (ofDate precision e).toOption)
    (hparts : ∀ e, parts = some e → precision.textOf e = s)
    (hdates : ∀ e, precision.textOf e = s → parts ≠ none) :
    (∃ e, precision.textOf e = s ∧ ofDigits? s = (ofDate precision e).toOption) ∨
      (∀ e, precision.textOf e ≠ s) ∧ ofDigits? s = none := by
  cases parts with
  | none => exact .inr ⟨fun e he => hdates e he rfl, hread⟩
  | some e => exact .inl ⟨e, hparts e rfl, hread⟩

/-- A text of the shape is what some date starts with and writes the period of the date, or no date
starts with it and it writes nothing. -/
theorem ofDigits?_of_shape (h : Precision.Shape precision s) :
    (∃ e, precision.textOf e = s ∧ ofDigits? s = (ofDate precision e).toOption) ∨
      (∀ e, precision.textOf e ≠ s) ∧ ofDigits? s = none := by
  have hdigits : ∀ {width n : Nat}, 0 < width → n < 10 ^ width →
    fixedDigits? width (paddedDecimal width n) = some n := fixedDigits?_paddedDecimal
  cases h with
  | year hy =>
    obtain ⟨year, hyear, rfl⟩ := hy.exists_eq (by decide)
    refine ofDigits?_of_parts (Date.ofParts? year 1 1) ?_ ?_ ?_
    · rw [ofDigits?, splitOn_of_not_mem [] dash_not_mem_paddedDecimal]
      simp only [hdigits (by decide) hyear, Option.bind_eq_bind, Option.bind_some]
    · intro e he
      obtain ⟨rfl, -, -⟩ := Date.ofParts?_eq_some_iff.1 he
      rfl
    · intro e he hnone
      obtain rfl := paddedDecimal_injective 4 he
      exact Date.ofParts?_ne_none (Precision.year.startOf e).isDate hnone
  | month hy hm =>
    obtain ⟨year, hyear, rfl⟩ := hy.exists_eq (by decide)
    obtain ⟨month, hmonth, rfl⟩ := hm.exists_eq (by decide)
    refine ofDigits?_of_parts (Date.ofParts? year month 1) ?_ ?_ ?_
    · rw [ofDigits?, splitOn_append dash_not_mem_paddedDecimal,
        splitOn_of_not_mem [] dash_not_mem_paddedDecimal]
      simp only [hdigits (by decide) hyear, hdigits (by decide) hmonth, Option.bind_eq_bind,
        Option.bind_some]
    · intro e he
      obtain ⟨rfl, rfl, -⟩ := Date.ofParts?_eq_some_iff.1 he
      rfl
    · intro e he hnone
      obtain ⟨rfl, rfl⟩ := Precision.eq_of_yearMonth_eq e.year_lt hyear he
      exact Date.ofParts?_ne_none e.isDate_first hnone
  | day hy hm hd =>
    obtain ⟨year, hyear, rfl⟩ := hy.exists_eq (by decide)
    obtain ⟨month, hmonth, rfl⟩ := hm.exists_eq (by decide)
    obtain ⟨day, hday, rfl⟩ := hd.exists_eq (by decide)
    refine ofDigits?_of_parts (Date.ofParts? year month day) ?_ ?_ ?_
    · rw [ofDigits?, List.append_assoc, List.cons_append, splitOn_append dash_not_mem_paddedDecimal,
        splitOn_append dash_not_mem_paddedDecimal,
        splitOn_of_not_mem [] dash_not_mem_paddedDecimal]
      simp only [hdigits (by decide) hyear, hdigits (by decide) hmonth, hdigits (by decide) hday,
        Option.bind_eq_bind, Option.bind_some]
    · intro e he
      obtain ⟨rfl, rfl, rfl⟩ := Date.ofParts?_eq_some_iff.1 he
      rfl
    · intro e he hnone
      have hlength : (paddedDecimal 4 e.year ++ '-' :: paddedDecimal 2 e.month).length =
          (paddedDecimal 4 year ++ '-' :: paddedDecimal 2 month).length := by
        rw [Precision.length_yearMonth e.year_lt e.month_lt, Precision.length_yearMonth hyear hmonth]
      obtain ⟨hfront, hback⟩ := List.append_inj he hlength
      obtain ⟨rfl, rfl⟩ := Precision.eq_of_yearMonth_eq e.year_lt hyear hfront
      obtain rfl := paddedDecimal_injective 2 (List.cons.inj hback).2
      exact Date.ofParts?_ne_none e.isDate hnone

/-- Only what the last day of the calendar starts with writes a period without an end. -/
theorem exists_ofDate_of_textOf_ne
    (h : precision.textOf e ≠ precision.textOf ⟨9999, 12, 31, by decide⟩) :
    ∃ p, ofDate precision e = .ok p := by
  rw [Ne, Precision.textOf_eq_iff] at h
  obtain ⟨hyear, hyear', hmonth, hmonth', -, -⟩ := e.isDate
  cases precision with
  | day =>
    have hlast := e.ordinal_le_maxOrdinal
    have hne : e.ordinal ≠ Date.maxOrdinal := fun heq => h (Date.ordinal_injective heq)
    exact exists_ofDate_day (by omega)
  | month =>
    have hne : e.monthIndex ≠ 12 * 9998 + 11 := h
    have hindex : e.monthIndex = 12 * (e.year - 1) + (e.month - 1) := rfl
    obtain ⟨stop, hstop⟩ := (Date.exists_addMonths_iff (d := e) (n := 1)).2 (by omega)
    exact ⟨_, ofDate_eq_ok (show Precision.month.stopOf e = .ok stop from hstop)⟩
  | year =>
    have hne : e.year ≠ 9999 := h
    have hdate : IsDate (e.year + 1) 1 1 :=
      ⟨by omega, by omega, by decide, by decide, by decide, one_le_daysInMonth _ _⟩
    have hstop : Precision.year.stopOf e = .ok ⟨e.year + 1, 1, 1, hdate⟩ := by
      rw [Precision.stopOf, Date.ofParts?, dif_pos hdate]
    exact ⟨_, ofDate_eq_ok hstop⟩

/-- **The period of a text holds the dates that start with it.** -/
theorem any_contains_ofDigits? (h : Precision.Shape precision s)
    (hlast : precision.textOf ⟨9999, 12, 31, by decide⟩ ≠ s) (d : Date) :
    (ofDigits? s).any (·.contains d) = s.isPrefixOf d.text := by
  rw [Bool.eq_iff_iff, List.isPrefixOf_iff_prefix, Precision.prefix_text_iff h]
  rcases ofDigits?_of_shape h with ⟨e, rfl, hread⟩ | ⟨hnone, hread⟩
  · obtain ⟨p, hp⟩ := exists_ofDate_of_textOf_ne hlast.symm
    obtain ⟨hprecision, hdate⟩ := eq_of_ofDate hp
    rw [hread, hp, Precision.textOf_eq_iff]
    show p.contains d = true ↔ _
    rw [contains_iff, hprecision, hdate]
  · rw [hread]
    exact iff_of_false Bool.false_ne_true (hnone d)

end Period

end TaskQuery
