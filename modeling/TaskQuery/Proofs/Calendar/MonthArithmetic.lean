import TaskQuery.Proofs.Calendar.Months

/-!
# Month arithmetic

Months are numbered through all years, and going some months on or back is an addition of numbers.

* `addMonths_eq_ok_iff_monthNumber`, `addMonths_eq_error_iff`: the first day of the month with the sum as
  its number, or no day because the year of that month is outside the calendar.
* `addMonths_congr`: steps that lead to one month have one result, so that steps can be put together.
* `exists_endOfMonth_addDays`: the day after the last one of a month is the first one of the next.
* `monthNumber_addMonths`: all of this for every day and every number of months.
-/

namespace TaskQuery

namespace Date

variable {d e : Date} {a b n : Int}

/-! ## Numbers of months -/

/-- The number of the month: twelve for each year, and the months before it in its own year. -/
def monthNumber (d : Date) : Int := 12 * (d.year : Int) + (d.month : Int) - 1

/-- The same months counted from the start of the calendar, which has no year 0. -/
theorem monthNumber_eq (d : Date) : d.monthNumber = d.monthIndex + 12 := by
  obtain ⟨hy, -, hm, -, -, -⟩ := d.isDate
  rw [monthNumber, monthIndex]
  omega

/-- The month so many months later has the number so much further on, and its first day is the
answer. -/
theorem addMonths_eq_ok_iff_monthNumber :
    d.addMonths n = .ok e ↔ e.day = 1 ∧ e.monthNumber = d.monthNumber + n := by
  rw [addMonths_eq_ok_iff, monthNumber_eq, monthNumber_eq]
  omega

/-- The months of the calendar are those of the years from 1 to 9999. -/
theorem exists_addMonths_iff_monthNumber :
    (∃ e, d.addMonths n = .ok e) ↔
      1 ≤ (d.monthNumber + n) / 12 ∧ (d.monthNumber + n) / 12 ≤ 9999 := by
  rw [exists_addMonths_iff, monthNumber_eq]
  omega

/-- The year of a month that does not exist is told. -/
theorem eq_noSuchYear_of_addMonths {error : CalendarError} (h : d.addMonths n = .error error) :
    error = .noSuchYear ((d.monthNumber + n) / 12) := by
  unfold addMonths at h
  dsimp only at h
  split at h
  · cases h
  · rw [← Except.error.inj h, monthNumber, Int.add_sub_assoc]

/-- Adding months fails exactly if they lead to a year outside the calendar, and the error names
that year. -/
theorem addMonths_eq_error_iff {error : CalendarError} :
    d.addMonths n = .error error ↔
      error = .noSuchYear ((d.monthNumber + n) / 12) ∧
        ¬(1 ≤ (d.monthNumber + n) / 12 ∧ (d.monthNumber + n) / 12 ≤ 9999) := by
  rw [← exists_addMonths_iff_monthNumber]
  constructor
  · intro h
    refine ⟨eq_noSuchYear_of_addMonths h, ?_⟩
    rintro ⟨e, he⟩
    rw [h] at he
    cases he
  · rintro ⟨rfl, hnone⟩
    cases h : d.addMonths n with
    | ok e => exact absurd ⟨e, h⟩ hnone
    | error error => rw [eq_noSuchYear_of_addMonths h]

/-! ## Steps and the ends of months -/

/-- Steps that lead to the same month have the same result. -/
theorem addMonths_congr (h : d.monthNumber + a = e.monthNumber + b) :
    d.addMonths a = e.addMonths b := by
  cases he : e.addMonths b with
  | ok m =>
    rw [addMonths_eq_ok_iff_monthNumber] at he ⊢
    exact ⟨he.1, he.2.trans h.symm⟩
  | error error =>
    rw [addMonths_eq_error_iff] at he ⊢
    rwa [h]

/-- The day after the last one of a month is the first one of the next month. -/
theorem exists_endOfMonth_addDays (h : d.monthIndex + 1 < 12 * 9999) :
    ∃ last next, d.endOfMonth = .ok last ∧ last.sameMonth d = true ∧
      last.addDays 1 = .ok next ∧ d.addMonths 1 = .ok next := by
  obtain ⟨last, hlast, hsame, -⟩ := exists_endOfMonth_eq_ok h
  -- the last day was found by going one day back from the next month
  obtain ⟨next, hnext, hback⟩ := bind_eq_ok.1 hlast
  have hordinal := addDays_eq_ok_iff.1 hback
  have hon : last.addDays 1 = .ok next := addDays_eq_ok_iff.2 (by omega)
  exact ⟨last, next, hlast, hsame, hon, hnext⟩

/-- **Month arithmetic is exact.**  Any number of months on or back from a day stands the first day of
the month whose number is the sum; there is none exactly if that month lies in a year outside 1 to
9999.  Two steps make up one step, whenever the first one stays in the calendar.  And before December
9999, the end of a month lies in the month of the day, and the day after it is the first one of the
next month. -/
theorem monthNumber_addMonths (d : Date) (a b : Int) :
    (∀ e, d.addMonths a = .ok e ↔ e.day = 1 ∧ e.monthNumber = d.monthNumber + a) ∧
      (∀ error, d.addMonths a = .error error ↔
        error = .noSuchYear ((d.monthNumber + a) / 12) ∧
          ¬(1 ≤ (d.monthNumber + a) / 12 ∧ (d.monthNumber + a) / 12 ≤ 9999)) ∧
      (∀ e, d.addMonths a = .ok e → e.addMonths b = d.addMonths (a + b)) ∧
      (d < ⟨9999, 12, 1, by decide⟩ → ∃ last next, d.endOfMonth = .ok last ∧
        last.sameMonth d = true ∧ last.addDays 1 = .ok next ∧
        next.day = 1 ∧ next.monthNumber = d.monthNumber + 1) := by
  refine ⟨fun e => addMonths_eq_ok_iff_monthNumber, fun error => addMonths_eq_error_iff, ?_, ?_⟩
  · intro e he
    obtain ⟨-, hnumber⟩ := addMonths_eq_ok_iff_monthNumber.1 he
    apply addMonths_congr
    omega
  · intro hd
    have hmonth : d.monthIndex < monthIndex ⟨9999, 12, 1, by decide⟩ :=
      Nat.lt_of_not_le fun hle => Nat.not_le_of_lt hd ((first_le_iff rfl).2 hle)
    have hnext : d.monthIndex + 1 < 12 * 9999 := Nat.succ_lt_succ hmonth
    obtain ⟨last, next, hlast, hsame, hon, hfirst⟩ := exists_endOfMonth_addDays hnext
    exact ⟨last, next, hlast, hsame, hon, addMonths_eq_ok_iff_monthNumber.1 hfirst⟩

/-- Back over the turn of a year and on again into a leap February. -/
theorem monthNumber_addMonths_february :
    let d : Date := ⟨2024, 2, 10, by decide⟩
    let e : Date := ⟨2023, 12, 1, by decide⟩
    d.addMonths (-2) = .ok e ∧ e.addMonths 2 = d.addMonths (-2 + 2) ∧
      d < ⟨9999, 12, 1, by decide⟩ ∧ ∃ last next, d.endOfMonth = .ok last ∧
        last.sameMonth d = true ∧ last.addDays 1 = .ok next ∧
        next.day = 1 ∧ next.monthNumber = d.monthNumber + 1 := by
  intro d e
  have hback : d.addMonths (-2) = .ok e := addMonths_eq_ok_iff_monthNumber.2 (by decide)
  have hbefore : d < ⟨9999, 12, 1, by decide⟩ := by decide
  obtain ⟨-, -, hadd, hend⟩ := monthNumber_addMonths d (-2) 2
  exact ⟨hback, hadd e hback, hbefore, hend hbefore⟩

end Date

end TaskQuery
