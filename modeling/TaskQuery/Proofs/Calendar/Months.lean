import Mathlib.Order.Bounds.Defs
import TaskQuery.Proofs.Calendar.DayCount

/-!
# Months, years and the periods around them

Days are ordered by their month first, and the first day of a month or year parts the days before
it from those in it and after it.

* `first_le_iff`, `firstOfYear_le_iff`: which days lie after the first day of a month or year.
* `isLeast_firstOfMonth`, `exists_endOfMonth_eq_ok`: the ends of a month.
* `Period.contains_iff`: a period holds the days of its year, of its month, or its one day.
* `Period.start_lt_stop`: no period is empty.
-/

namespace TaskQuery

namespace Date

variable {d e : Date}

/-! ## Days and their months -/

/-- The days of an earlier month come first. -/
theorem lt_of_monthIndex (h : d.monthIndex < e.monthIndex) : d.ordinal < e.ordinal := by
  obtain ⟨hy, -, hm, hm', -, -⟩ := d.isDate
  obtain ⟨hey, -, hem, hem', -, -⟩ := e.isDate
  rw [monthIndex, monthIndex] at h
  rcases Nat.lt_trichotomy d.year e.year with hlt | heq | hlt
  · exact ordinal_lt_of_year hlt
  · exact ordinal_lt_of_month heq (by omega)
  · omega

/-- Two days have one month index if their years and months are the same. -/
theorem monthIndex_eq_iff : d.monthIndex = e.monthIndex ↔ d.year = e.year ∧ d.month = e.month := by
  obtain ⟨hy, -, hm, hm', -, -⟩ := d.isDate
  obtain ⟨hey, -, hem, hem', -, -⟩ := e.isDate
  rw [monthIndex, monthIndex]
  omega

/-- Two days lie in the same month if their month indices are equal. -/
theorem sameMonth_iff : d.sameMonth e = true ↔ d.monthIndex = e.monthIndex := by
  rw [sameMonth, Bool.and_eq_true, beq_iff_eq, beq_iff_eq, monthIndex_eq_iff]

/-- The first day of a month parts the months before it from this one and those after it. -/
theorem first_le_iff (h : e.day = 1) : e ≤ d ↔ e.monthIndex ≤ d.monthIndex := by
  show e.ordinal ≤ d.ordinal ↔ _
  rcases Nat.lt_trichotomy e.monthIndex d.monthIndex with hlt | heq | hlt
  · exact iff_of_true (Nat.le_of_lt (lt_of_monthIndex hlt)) (Nat.le_of_lt hlt)
  · obtain ⟨hyear, hmonth⟩ := monthIndex_eq_iff.1 heq
    obtain ⟨-, -, -, -, hd, -⟩ := d.isDate
    refine iff_of_true ?_ (Nat.le_of_eq heq)
    rw [ordinal, ordinal, hyear, hmonth, h]
    omega
  · exact iff_of_false (Nat.not_le_of_lt (lt_of_monthIndex hlt)) (Nat.not_le_of_lt hlt)

/-- The first day of a year parts the years before it from this one and those after it. -/
theorem firstOfYear_le_iff (hm : e.month = 1) (h : e.day = 1) : e ≤ d ↔ e.year ≤ d.year := by
  obtain ⟨hy, -, hdm, hdm', -, -⟩ := d.isDate
  obtain ⟨hey, -, -, -, -, -⟩ := e.isDate
  rw [first_le_iff h, monthIndex, monthIndex, hm]
  omega

/-! ## The ends of a month -/

/-- The first of the month lies in the month. -/
theorem monthIndex_firstOfMonth (d : Date) : d.firstOfMonth.monthIndex = d.monthIndex := rfl

/-- The first of the month is the earliest of its days. -/
theorem isLeast_firstOfMonth (d : Date) : IsLeast {e | e.sameMonth d = true} d.firstOfMonth := by
  refine ⟨sameMonth_iff.2 d.monthIndex_firstOfMonth, ?_⟩
  intro e he
  rw [first_le_iff rfl, monthIndex_firstOfMonth]
  exact Nat.le_of_eq (sameMonth_iff.1 he).symm

/-- The last day of a month stands before the first day of the next month. -/
theorem exists_endOfMonth_eq_ok (h : d.monthIndex + 1 < 12 * 9999) :
    ∃ last, d.endOfMonth = .ok last ∧ IsGreatest {e | e.sameMonth d = true} last := by
  obtain ⟨next, hnext⟩ := (exists_addMonths_iff (d := d) (n := 1)).2 ⟨by omega, by omega⟩
  obtain ⟨hday, hindex⟩ := addMonths_eq_ok_iff.1 hnext
  have hindex : next.monthIndex = d.monthIndex + 1 := by omega
  have hbefore : d.ordinal < next.ordinal := lt_of_monthIndex (by omega)
  have hpos := d.one_le_ordinal
  have hmax := next.ordinal_le_maxOrdinal
  obtain ⟨last, hlast⟩ := (exists_addDays_iff (d := next) (n := -1)).2 ⟨by omega, by omega⟩
  have hordinal := addDays_eq_ok_iff.1 hlast
  -- the days before the next month are those up to the last one
  have hupTo : ∀ e : Date, e ≤ last ↔ e.monthIndex ≤ d.monthIndex := by
    intro e
    have hparts := first_le_iff (d := e) hday
    have hle : e ≤ last ↔ ¬next ≤ e := by
      show e.ordinal ≤ last.ordinal ↔ ¬next.ordinal ≤ e.ordinal
      omega
    rw [hle, hparts, hindex]
    omega
  have hsame : last.monthIndex = d.monthIndex := by
    refine Nat.le_antisymm ((hupTo last).1 last.le_refl) (Nat.le_of_not_lt fun hlt => ?_)
    have hfirst := lt_of_monthIndex hlt
    have hd : d.ordinal ≤ last.ordinal := (hupTo d).2 (Nat.le_refl _)
    omega
  refine ⟨last, ?_, sameMonth_iff.2 hsame, ?_⟩
  · rw [endOfMonth, hnext, ok_bind, hlast]
  · intro e he
    exact (hupTo e).2 (Nat.le_of_eq (sameMonth_iff.1 he))

/-! ## Away from the ends of the calendar -/

/-- Days of the years from 2 to 9998 have a year before them and a year behind them. -/
theorem ordinal_bounds (h : 2 ≤ d.year) (h' : d.year ≤ 9998) :
    365 < d.ordinal ∧ d.ordinal + 365 ≤ maxOrdinal ∧ d.monthIndex + 12 < 12 * 9999 := by
  obtain ⟨-, -, -, hm, -, -⟩ := d.isDate
  have hbefore : daysBeforeYear 2 ≤ daysBeforeYear d.year := daysBeforeYear_mono (by decide) h
  have hafter : daysBeforeYear (d.year + 1) ≤ daysBeforeYear 9999 :=
    daysBeforeYear_mono (by omega) (by omega)
  have hfirst := d.daysBeforeYear_lt_ordinal
  have hlast := d.ordinal_le
  have hends : daysBeforeYear 2 = 365 ∧ daysBeforeYear 9999 + 365 = maxOrdinal := by decide
  rw [monthIndex]
  omega

end Date

/-! ## Periods -/

/-- The two days are the same to this precision. -/
def Precision.Agrees (d e : Date) : Precision → Prop
  | day => d = e
  | month => d.monthIndex = e.monthIndex
  | year => d.year = e.year

namespace Period

variable {p : Period} {d : Date}

/-- The days of a year lie between its first day and that of the next year. -/
theorem year_of_stopOf_year {stop : Date} (h : Precision.year.stopOf d = .ok stop) :
    stop.year = d.year + 1 ∧ stop.month = 1 ∧ stop.day = 1 := by
  simp only [Precision.stopOf, Date.ofParts?] at h
  split at h
  · next e he =>
    split at he
    · obtain rfl := Option.some.inj he
      obtain rfl := Except.ok.inj h
      exact ⟨rfl, rfl, rfl⟩
    · cases he
  · cases h

/-- The first day after a day is the next one. -/
theorem ordinal_of_stopOf_day {stop : Date} (h : Precision.day.stopOf d = .ok stop) :
    stop.ordinal = d.ordinal + 1 := by
  rw [Precision.stopOf] at h
  cases hd : d.addDays 1 with
  | error e =>
    rw [hd] at h
    cases h
  | ok next =>
    rw [hd] at h
    obtain rfl := Except.ok.inj h
    have hnext := Date.addDays_eq_ok_iff.1 hd
    omega

/-- **The days of a period** are those of its year, those of its month, or its one day. -/
theorem contains_iff : p.contains d = true ↔ p.precision.Agrees d p.date := by
  have hstop := p.stopOf_eq
  have hcontains : p.contains d = true ↔ p.precision.startOf p.date ≤ d ∧ ¬p.stop ≤ d := by
    rw [contains, range, DateRange.contains, Bool.and_eq_true, decide_eq_true_eq,
      decide_eq_true_eq]
    exact and_congr_right fun _ => Nat.not_le.symm
  rw [hcontains]
  cases hprecision : p.precision with
  | day =>
    rw [hprecision] at hstop
    have hnext := ordinal_of_stopOf_day hstop
    show p.date.ordinal ≤ d.ordinal ∧ ¬p.stop.ordinal ≤ d.ordinal ↔ d = p.date
    constructor
    · rintro ⟨hle, hlt⟩
      exact Date.ordinal_injective (by omega)
    · rintro rfl
      omega
  | month =>
    rw [hprecision] at hstop
    obtain ⟨hday, hindex⟩ := Date.addMonths_eq_ok_iff.1 hstop
    show p.date.firstOfMonth ≤ d ∧ ¬p.stop ≤ d ↔ d.monthIndex = p.date.monthIndex
    rw [Date.first_le_iff rfl, Date.first_le_iff hday, Date.monthIndex_firstOfMonth]
    omega
  | year =>
    rw [hprecision] at hstop
    obtain ⟨hyear, hmonth, hday⟩ := year_of_stopOf_year hstop
    show Precision.year.startOf p.date ≤ d ∧ ¬p.stop ≤ d ↔ d.year = p.date.year
    have hstart : (Precision.year.startOf p.date).year = p.date.year := rfl
    rw [Date.firstOfYear_le_iff rfl rfl, Date.firstOfYear_le_iff hmonth hday, hstart, hyear]
    omega

/-- A period holds its own day. -/
theorem contains_date (p : Period) : p.contains p.date = true := by
  rw [contains_iff]
  cases p.precision <;> rfl

/-- No period is empty. -/
theorem start_lt_stop (p : Period) : p.start < p.stop := by
  have hdate := p.contains_date
  rw [contains, range, DateRange.contains, Bool.and_eq_true, decide_eq_true_eq,
    decide_eq_true_eq] at hdate
  exact Nat.lt_of_le_of_lt hdate.1 hdate.2

end Period

end TaskQuery
