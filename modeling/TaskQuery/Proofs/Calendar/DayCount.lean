import TaskQuery.Calendar.Period
import TaskQuery.Proofs.Calendar.Ordinal
import TaskQuery.Result

/-!
# Counting days and months

The days of the calendar are numbered without a gap from 1 to `maxOrdinal`, and the date with a
number is found from it.

* `yearOfOrdinal_eq`, `monthOfDay_eq`: the year and the month in which a day falls.
* `ofOrdinal?_eq_some_iff`: the date found from a number is the one with that ordinal.
* `exists_ordinal_eq_iff`: which numbers belong to a day.
* `addDays_eq_ok_iff`, `addMonths_eq_ok_iff`: what adding days and months gives.
* `exists_addDays_iff`, `exists_addMonths_iff`, `exists_week_iff`: when it gives something.
* `Period.ofDate_eq_ok`: a period is made up by the end of what is around its day.
-/

namespace TaskQuery

/-- Every month has a day. -/
theorem one_le_daysInMonth (year month : Nat) : 1 ≤ daysInMonth year month := by
  unfold daysInMonth
  split
  · split <;> omega
  all_goals omega

namespace Date

/-! ## Finding the date of an ordinal -/

/-- Days of one year are traced back to it: the cycles, centuries, quadrennia and years before
the day are read off from its number. -/
theorem yearOfOrdinal_eq {year n : Nat} (hy : 1 ≤ year) (h : daysBeforeYear year < n)
    (h' : n ≤ daysBeforeYear (year + 1)) : yearOfOrdinal n = year := by
  obtain ⟨a, b, c, e, hb, hc, he, hyear⟩ :
      ∃ a b c e, b < 4 ∧ c < 25 ∧ e < 4 ∧ year = 400 * a + 100 * b + 4 * c + e + 1 :=
    ⟨(year - 1) / 400, (year - 1) % 400 / 100, (year - 1) % 100 / 4, (year - 1) % 4,
      by omega, by omega, by omega, by omega⟩
  have hbefore : daysBeforeYear year = 146097 * a + 36524 * b + 1461 * c + 365 * e := by
    rw [daysBeforeYear]
    omega
  -- the last day of a leap year closes a quadrennium, but only every fourth century has one there
  have hlength : daysInYear year ≤ 366 ∧ (e < 3 ∨ (c = 24 ∧ b < 3) → daysInYear year ≤ 365) := by
    simp only [daysInYear, isLeapYear, Bool.and_eq_true, Bool.or_eq_true, beq_iff_eq, bne_iff_ne]
    constructor
    · split <;> omega
    · intro hshort
      exact Nat.le_of_eq (if_neg (by omega))
  obtain ⟨r, hr, hn⟩ : ∃ r, r < daysInYear year ∧ n - 1 = daysBeforeYear year + r := by
    rw [daysBeforeYear_succ hy] at h'
    exact ⟨n - 1 - daysBeforeYear year, by omega, by omega⟩
  have hcycle : (n - 1) / 146097 = a := by omega
  have hrest : (n - 1) % 146097 = 36524 * b + 1461 * c + 365 * e + r := by omega
  have hcentury : min ((36524 * b + 1461 * c + 365 * e + r) / 36524) 3 = b := by omega
  have hquad : (36524 * b + 1461 * c + 365 * e + r - b * 36524) / 1461 = c := by omega
  have hyears : (36524 * b + 1461 * c + 365 * e + r - b * 36524) % 1461 = 365 * e + r := by omega
  have hone : min ((365 * e + r) / 365) 3 = e := by omega
  simp only [yearOfOrdinal, hcycle, hrest, hcentury, hquad, hyears, hone]
  omega

/-- The month is the first one that ends on the day or after it. -/
theorem monthOfDay_eq {year month day : Nat} (hm : 1 ≤ month) (hm' : month ≤ 12) (hd : 1 ≤ day)
    (hd' : day ≤ daysInMonth year month) :
    monthOfDay year (daysBeforeMonth year month + day) = month := by
  have hfind : (List.range' 1 12).find? (fun m => daysBeforeMonth year month + day ≤
      daysBeforeMonth year (m + 1)) = some month := by
    rw [List.find?_range'_eq_some]
    refine ⟨?_, by simp; omega, fun j hj hlt => ?_⟩
    · rw [decide_eq_true_iff, daysBeforeMonth_succ year hm]
      omega
    · have := daysBeforeMonth_mono year (show 1 ≤ j + 1 by omega) (show j + 1 ≤ month by omega)
      simp only [Bool.not_eq_true', decide_eq_false_iff_not]
      omega
  rw [monthOfDay, hfind, Option.getD_some]

/-- A day is found again from its place in the calendar. -/
theorem ofOrdinal?_ordinal (d : Date) : ofOrdinal? d.ordinal = some d := by
  obtain ⟨hy, -, hm, hm', hd, hd'⟩ := d.isDate
  have hyear : yearOfOrdinal d.ordinal = d.year :=
    yearOfOrdinal_eq hy d.daysBeforeYear_lt_ordinal d.ordinal_le
  have hday : d.ordinal - daysBeforeYear d.year = daysBeforeMonth d.year d.month + d.day := by
    rw [ordinal]
    omega
  simp only [ofOrdinal?, Int.toNat_natCast, hyear, hday, monthOfDay_eq hm hm' hd hd',
    Nat.add_sub_cancel_left]
  exact dif_pos d.isDate

/-- The date found from a number is the one with that ordinal. -/
theorem ofOrdinal?_eq_some_iff {n : Int} {d : Date} :
    ofOrdinal? n = some d ↔ (d.ordinal : Int) = n := by
  constructor
  · intro h
    simp only [ofOrdinal?, ofParts?] at h
    split at h
    · next hdate =>
      obtain rfl := Option.some.inj h
      -- the day of the month is at least 1, so that nothing was cut off below it
      obtain ⟨-, -, -, -, hday, -⟩ := hdate
      simp only [ordinal]
      omega
    · cases h
  · rintro rfl
    exact d.ofOrdinal?_ordinal

/-! ## The numbers of days -/

/-- The number of the last day of the calendar. -/
def maxOrdinal : Nat := 3652059

/-- Places in the calendar are counted from one. -/
theorem one_le_ordinal (d : Date) : 1 ≤ d.ordinal :=
  Nat.le_trans (Nat.succ_le_succ (Nat.zero_le _)) d.daysBeforeYear_lt_ordinal

/-- No day comes after the last place of the calendar. -/
theorem ordinal_le_maxOrdinal (d : Date) : d.ordinal ≤ maxOrdinal := by
  obtain ⟨-, hy, -⟩ := d.isDate
  exact Nat.le_trans d.ordinal_le (daysBeforeYear_mono (b := 10000) (by omega) (by omega))

/-- Every day but the last one is followed by another one. -/
theorem exists_succ (d : Date) (h : d.ordinal < maxOrdinal) :
    ∃ e : Date, e.ordinal = d.ordinal + 1 := by
  obtain ⟨hy, hy', hm, hm', hd, hd'⟩ := d.isDate
  rcases Nat.lt_or_eq_of_le hd' with hday | hday
  · exact ⟨⟨d.year, d.month, d.day + 1, hy, hy', hm, hm', by omega, hday⟩, rfl⟩
  have hend : daysBeforeMonth d.year d.month + d.day = daysBeforeMonth d.year (d.month + 1) := by
    rw [daysBeforeMonth_succ d.year hm, hday]
  rcases Nat.lt_or_eq_of_le hm' with hmonth | hmonth
  · refine ⟨⟨d.year, d.month + 1, 1, hy, hy', by omega, hmonth, Nat.le_refl _,
      one_le_daysInMonth _ _⟩, ?_⟩
    simp only [ordinal]
    omega
  · have hyear : daysBeforeYear (d.year + 1) = d.ordinal := by
      rw [daysBeforeYear_succ hy, ordinal, Nat.add_assoc, hend, hmonth, daysBeforeMonth_thirteen]
    have hlast : d.year < 9999 := by
      rcases Nat.lt_or_eq_of_le hy' with hlt | heq
      · exact hlt
      · rw [← hyear, heq] at h
        exact absurd h (by decide)
    refine ⟨⟨d.year + 1, 1, 1, by omega, hlast, by omega, by omega, by omega, ?_⟩, ?_⟩
    · simp [daysInMonth]
    · show daysBeforeYear (d.year + 1) + daysBeforeMonth (d.year + 1) 1 + 1 = _
      rw [hyear]
      rfl

/-- The days are numbered from 1 to `maxOrdinal` without a gap. -/
theorem exists_ordinal_eq_iff {n : Nat} :
    (∃ d : Date, d.ordinal = n) ↔ 1 ≤ n ∧ n ≤ maxOrdinal := by
  constructor
  · rintro ⟨d, rfl⟩
    exact ⟨d.one_le_ordinal, d.ordinal_le_maxOrdinal⟩
  · rintro ⟨hpos, hmax⟩
    induction hpos with
    | refl => exact ⟨⟨1, 1, 1, by decide⟩, rfl⟩
    | step _ ih =>
      obtain ⟨d, rfl⟩ := ih (Nat.le_of_succ_le hmax)
      exact d.exists_succ hmax

/-! ## Days and weeks later -/

variable {d e : Date} {n : Int}

/-- The day so many days later is the one with the place so much further on. -/
theorem addDays_eq_ok_iff : d.addDays n = .ok e ↔ (e.ordinal : Int) = d.ordinal + n := by
  rw [← ofOrdinal?_eq_some_iff, addDays]
  split
  · next h => rw [h, Except.ok.injEq, Option.some.injEq]
  · next h => simp [h]

/-- The only thing that can go wrong is to leave the calendar. -/
theorem exists_addDays_iff :
    (∃ e, d.addDays n = .ok e) ↔ 1 ≤ d.ordinal + n ∧ d.ordinal + n ≤ maxOrdinal := by
  simp only [addDays_eq_ok_iff]
  constructor
  · rintro ⟨e, he⟩
    have hpos := e.one_le_ordinal
    have hmax := e.ordinal_le_maxOrdinal
    omega
  · rintro ⟨hpos, hmax⟩
    obtain ⟨e, he⟩ := exists_ordinal_eq_iff (n := (d.ordinal + n).toNat).2
      ⟨by omega, by omega⟩
    exact ⟨e, by omega⟩

/-- A day comes less than seven days after the start of its week. -/
theorem daysIntoWeek_lt (d : Date) (w : WeekStart) : d.daysIntoWeek w < 7 := by
  cases w
  · exact Nat.mod_lt _ (by decide)
  · exact Nat.mod_lt _ (by decide)

/-- The week of a day begins as many days before it as it lies in the week, and has seven days. -/
theorem week_eq_ok_iff {w : WeekStart} {r : DateRange} :
    d.week w = .ok r ↔ r.start.ordinal + d.daysIntoWeek w = d.ordinal ∧
      r.stop.ordinal = r.start.ordinal + 7 := by
  have hstart : d.addDays (-(d.daysIntoWeek w : Int)) = .ok r.start ↔
      r.start.ordinal + d.daysIntoWeek w = d.ordinal := by
    rw [addDays_eq_ok_iff]
    omega
  have hstop : r.start.addDays 7 = .ok r.stop ↔ r.stop.ordinal = r.start.ordinal + 7 := by
    rw [addDays_eq_ok_iff]
    omega
  rw [← hstart, ← hstop, week, bind_eq_ok]
  constructor
  · rintro ⟨start, hs, h⟩
    obtain ⟨stop, ht, h⟩ := bind_eq_ok.1 h
    obtain rfl := Except.ok.inj h
    exact ⟨hs, ht⟩
  · rintro ⟨hs, ht⟩
    exact ⟨r.start, hs, bind_eq_ok.2 ⟨r.stop, ht, rfl⟩⟩

/-- A week needs its first day and the day after its last one. -/
theorem exists_week_iff {w : WeekStart} :
    (∃ r, d.week w = .ok r) ↔ d.daysIntoWeek w < d.ordinal ∧
      d.ordinal - d.daysIntoWeek w + 7 ≤ maxOrdinal := by
  simp only [week_eq_ok_iff]
  constructor
  · rintro ⟨r, hstart, hstop⟩
    have hpos := r.start.one_le_ordinal
    have hmax := r.stop.ordinal_le_maxOrdinal
    omega
  · rintro ⟨hpos, hmax⟩
    obtain ⟨start, hstart⟩ := exists_ordinal_eq_iff (n := d.ordinal - d.daysIntoWeek w).2
      ⟨by omega, by omega⟩
    obtain ⟨stop, hstop⟩ := exists_ordinal_eq_iff (n := start.ordinal + 7).2
      ⟨by omega, by omega⟩
    exact ⟨⟨start, stop⟩, by simp only; omega, hstop⟩

/-! ## Months later -/

/-- The number of a month, counted from the start of the calendar. -/
def monthIndex (d : Date) : Nat := 12 * (d.year - 1) + (d.month - 1)

/-- The month so many months later is the one with the index so much further on, and its first day
is the answer. -/
theorem addMonths_eq_ok_iff :
    d.addMonths n = .ok e ↔ e.day = 1 ∧ (e.monthIndex : Int) = d.monthIndex + n := by
  obtain ⟨hy, hy', hm, hm', -, -⟩ := d.isDate
  obtain ⟨hey, hey', hem, hem', -, -⟩ := e.isDate
  simp only [addMonths, ofParts?, monthIndex]
  constructor
  · intro h
    split at h
    · next f hf =>
      split at hf
      · next hdate =>
        obtain rfl := Option.some.inj hf
        obtain rfl := Except.ok.inj h
        obtain ⟨h1, h2, h3, h4, -, -⟩ := hdate
        refine ⟨rfl, ?_⟩
        simp only
        omega
      · cases hf
    · cases h
  · rintro ⟨hday, hindex⟩
    have hyear : ((12 * (d.year : Int) + ((d.month : Int) - 1) + n) / 12).toNat = e.year := by omega
    have hmonth : ((12 * (d.year : Int) + ((d.month : Int) - 1) + n) % 12 + 1).toNat = e.month := by
      omega
    have hdate : IsDate e.year e.month 1 := e.isDate_first
    rw [hyear, hmonth, dif_pos hdate]
    cases e
    simp only at hday
    subst hday
    rfl

/-- There is a month so many months later exactly if its index lies in the calendar. -/
theorem exists_addMonths_iff :
    (∃ e, d.addMonths n = .ok e) ↔ 0 ≤ d.monthIndex + n ∧ d.monthIndex + n < 12 * 9999 := by
  simp only [addMonths_eq_ok_iff]
  constructor
  · rintro ⟨e, -, he⟩
    obtain ⟨hy, hy', hm, hm', -, -⟩ := e.isDate
    simp only [monthIndex] at he ⊢
    omega
  · rintro ⟨hpos, hmax⟩
    obtain ⟨i, hi⟩ := Int.eq_ofNat_of_zero_le hpos
    refine ⟨⟨i / 12 + 1, i % 12 + 1, 1, by omega, by omega, by omega, by omega, by omega,
      one_le_daysInMonth _ _⟩, rfl, ?_⟩
    rw [hi, monthIndex]
    simp only [Nat.add_sub_cancel]
    omega

end Date

/-! ## Periods -/

namespace Period

variable {precision : Precision} {d stop : Date}

/-- A period is made where there is a first day after it. -/
theorem ofDate_eq_ok (h : precision.stopOf d = .ok stop) :
    ofDate precision d = .ok ⟨d, precision, stop, h⟩ := by
  unfold ofDate
  split
  · next h' =>
    rw [h] at h'
    cases h'
    rfl
  · next h' =>
    rw [h] at h'
    cases h'

/-- Without a first day after it there is no period, for the same reason. -/
theorem ofDate_eq_error {e : CalendarError} (h : precision.stopOf d = .error e) :
    ofDate precision d = .error e := by
  unfold ofDate
  split
  · next h' =>
    rw [h] at h'
    cases h'
  · next h' =>
    rw [h] at h'
    cases h'
    rfl

/-- Every day but the last one of the calendar makes up a period. -/
theorem exists_ofDate_day (h : d.ordinal < Date.maxOrdinal) : ∃ p, ofDate .day d = .ok p := by
  obtain ⟨stop, hd⟩ := (Date.exists_addDays_iff (d := d) (n := 1)).2 ⟨by omega, by omega⟩
  have hstop : Precision.day.stopOf d = .ok stop := by
    rw [Precision.stopOf, hd]
    rfl
  exact ⟨_, ofDate_eq_ok hstop⟩

/-- The period of a single day lasts until the next day, if there is one. -/
theorem map_range_ofDate_day (d : Date) :
    (ofDate .day d).toOption.map range = (d.addDays 1).toOption.map fun stop => ⟨d, stop⟩ := by
  cases hd : d.addDays 1 with
  | error e =>
    have hstop : Precision.day.stopOf d = .error .endless := by
      rw [Precision.stopOf, hd]
      rfl
    rw [ofDate_eq_error hstop]
    rfl
  | ok stop =>
    have hstop : Precision.day.stopOf d = .ok stop := by
      rw [Precision.stopOf, hd]
      rfl
    rw [ofDate_eq_ok hstop]
    rfl

/-- A period keeps the precision and the day that it was made of. -/
theorem eq_of_ofDate {p : Period} (h : ofDate precision d = .ok p) :
    p.precision = precision ∧ p.date = d := by
  unfold ofDate at h
  split at h
  · obtain rfl := Except.ok.inj h
    exact ⟨rfl, rfl⟩
  · cases h

/-- A day starts on itself. -/
theorem start_of_ofDate_day {p : Period} (h : ofDate .day d = .ok p) : p.start = d := by
  obtain ⟨hprecision, hdate⟩ := eq_of_ofDate h
  rw [start, hprecision, hdate, Precision.startOf]

/-- A day lies in the period that it makes up. -/
theorem contains_of_ofDate_day {p : Period} (h : ofDate .day d = .ok p) :
    p.contains d = true := by
  obtain ⟨hprecision, hdate⟩ := eq_of_ofDate h
  have hstart := start_of_ofDate_day h
  have hstop : d < p.stop := by
    have hnext := p.stopOf_eq
    rw [hprecision, hdate, Precision.stopOf] at hnext
    cases hd : d.addDays 1 with
    | error e =>
      rw [hd] at hnext
      cases hnext
    | ok stop =>
      rw [hd] at hnext
      have hordinal := Date.addDays_eq_ok_iff.1 hd
      rw [← Except.ok.inj hnext]
      show d.ordinal < stop.ordinal
      omega
  rw [contains, range, DateRange.contains, hstart]
  simp [Date.le_refl, hstop]

end Period

end TaskQuery
