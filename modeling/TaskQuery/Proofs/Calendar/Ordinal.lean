import TaskQuery.Calendar.Date

/-!
# Ordinals of dates

The ordinal orders the days as year, month and day do.

* `daysBeforeYear_succ`, `daysBeforeMonth_succ`: years and months follow on one another without
  a gap.
* `ordinal_lt_of_year`, `ordinal_lt_of_month`, `ordinal_lt_of_day`: the ordinal goes up with the
  date.
* `ordinal_injective`: different days have different ordinals.
-/

namespace TaskQuery

/-- The number of days in a year. -/
def daysInYear (year : Nat) : Nat := if isLeapYear year then 366 else 365

/-- A year starts where the one before it ends. -/
theorem daysBeforeYear_succ {year : Nat} (h : 1 ≤ year) :
    daysBeforeYear (year + 1) = daysBeforeYear year + daysInYear year := by
  obtain ⟨n, rfl⟩ : ∃ n, year = n + 1 := ⟨year - 1, by omega⟩
  have hle : n / 100 ≤ n * 365 + n / 4 := by omega
  simp only [daysBeforeYear, daysInYear, isLeapYear, Nat.add_sub_cancel, Bool.and_eq_true,
    Bool.or_eq_true, beq_iff_eq, bne_iff_ne, Nat.succ_div, Nat.dvd_iff_mod_eq_zero]
  -- every fourth year is a leap year, every hundredth is not, every four-hundredth is again
  by_cases h4 : (n + 1) % 4 = 0
  · by_cases h100 : (n + 1) % 100 = 0
    · by_cases h400 : (n + 1) % 400 = 0
      · simp only [h4, h100, h400, ne_eq, not_true_eq_false, or_true, and_true, if_true]
        omega
      · simp only [h4, h100, h400, ne_eq, not_true_eq_false, or_self, and_false, if_true, if_false]
        omega
    · have h400 : (n + 1) % 400 ≠ 0 := by omega
      simp only [h4, h100, h400, ne_eq, not_false_eq_true, true_or, and_true, if_true, if_false]
      omega
  · have h100 : (n + 1) % 100 ≠ 0 := by omega
    have h400 : (n + 1) % 400 ≠ 0 := by omega
    simp only [h4, h100, h400, false_and, if_false]
    omega

/-- No fewer days come before a later year. -/
theorem daysBeforeYear_mono {a b : Nat} (ha : 1 ≤ a) (hab : a ≤ b) :
    daysBeforeYear a ≤ daysBeforeYear b := by
  induction hab with
  | refl => exact Nat.le_refl _
  | @step b hb ih =>
    rw [daysBeforeYear_succ (Nat.le_trans ha hb)]
    exact Nat.le_trans ih (Nat.le_add_right _ _)

/-- A month starts where the one before it ends. -/
theorem daysBeforeMonth_succ (year : Nat) {month : Nat} (h : 1 ≤ month) :
    daysBeforeMonth year (month + 1) = daysBeforeMonth year month + daysInMonth year month := by
  obtain ⟨m, rfl⟩ : ∃ m, month = m + 1 := ⟨month - 1, by omega⟩
  rw [daysBeforeMonth]

/-- No fewer days of the year come before a later month. -/
theorem daysBeforeMonth_mono (year : Nat) {a b : Nat} (ha : 1 ≤ a) (hab : a ≤ b) :
    daysBeforeMonth year a ≤ daysBeforeMonth year b := by
  induction hab with
  | refl => exact Nat.le_refl _
  | @step b hb ih =>
    rw [daysBeforeMonth_succ year (Nat.le_trans ha hb)]
    exact Nat.le_trans ih (Nat.le_add_right _ _)

/-- The months of a year make up the year. -/
theorem daysBeforeMonth_thirteen (year : Nat) : daysBeforeMonth year 13 = daysInYear year := by
  simp only [daysBeforeMonth, daysInMonth, daysInYear]
  split <;> rfl

namespace Date

variable {a b : Date}

/-- The day of the month lies inside its month. -/
theorem daysBeforeMonth_add_day_le (d : Date) :
    daysBeforeMonth d.year d.month + d.day ≤ daysBeforeMonth d.year (d.month + 1) := by
  obtain ⟨-, -, hm, -, -, hd⟩ := d.isDate
  rw [daysBeforeMonth_succ d.year hm]
  exact Nat.add_le_add_left hd _

/-- A date lies inside its year. -/
theorem ordinal_le (d : Date) : d.ordinal ≤ daysBeforeYear (d.year + 1) := by
  obtain ⟨hy, -, hm, hm', -, -⟩ := d.isDate
  have hmonth := d.daysBeforeMonth_add_day_le
  have hyear : daysBeforeMonth d.year (d.month + 1) ≤ daysInYear d.year := by
    rw [← daysBeforeMonth_thirteen]
    exact daysBeforeMonth_mono d.year (by omega) (by omega)
  rw [ordinal, daysBeforeYear_succ hy]
  omega

/-- A day comes after all days of earlier years. -/
theorem daysBeforeYear_lt_ordinal (d : Date) : daysBeforeYear d.year < d.ordinal := by
  obtain ⟨-, -, -, -, hd, -⟩ := d.isDate
  rw [ordinal]
  omega

/-- The days of an earlier year come first. -/
theorem ordinal_lt_of_year (h : a.year < b.year) : a.ordinal < b.ordinal := by
  have ha := a.ordinal_le
  have hb := b.daysBeforeYear_lt_ordinal
  have hab : daysBeforeYear (a.year + 1) ≤ daysBeforeYear b.year :=
    daysBeforeYear_mono (by omega) (by omega)
  omega

/-- Within a year, the days of an earlier month come first. -/
theorem ordinal_lt_of_month (hy : a.year = b.year) (h : a.month < b.month) :
    a.ordinal < b.ordinal := by
  obtain ⟨-, -, -, -, hd, -⟩ := b.isDate
  have ha := a.daysBeforeMonth_add_day_le
  have hab : daysBeforeMonth a.year (a.month + 1) ≤ daysBeforeMonth a.year b.month :=
    daysBeforeMonth_mono a.year (by omega) (by omega)
  rw [ordinal, ordinal, ← hy]
  omega

/-- Within a month, days come in their order. -/
theorem ordinal_lt_of_day (hy : a.year = b.year) (hm : a.month = b.month) (h : a.day < b.day) :
    a.ordinal < b.ordinal := by
  rw [ordinal, ordinal, ← hy, ← hm]
  omega

/-- **Different days have different ordinals.** -/
theorem ordinal_injective (h : a.ordinal = b.ordinal) : a = b := by
  have hyear : a.year = b.year := by
    rcases Nat.lt_trichotomy a.year b.year with hlt | heq | hlt
    · have := ordinal_lt_of_year hlt
      omega
    · exact heq
    · have := ordinal_lt_of_year hlt
      omega
  have hmonth : a.month = b.month := by
    rcases Nat.lt_trichotomy a.month b.month with hlt | heq | hlt
    · have := ordinal_lt_of_month hyear hlt
      omega
    · exact heq
    · have := ordinal_lt_of_month hyear.symm hlt
      omega
  have hday : a.day = b.day := by
    rcases Nat.lt_trichotomy a.day b.day with hlt | heq | hlt
    · have := ordinal_lt_of_day hyear hmonth hlt
      omega
    · exact heq
    · have := ordinal_lt_of_day hyear.symm hmonth.symm hlt
      omega
  cases a
  cases b
  simp only at hyear hmonth hday
  simp only [hyear, hmonth, hday]

/-- A day does not come before itself. -/
theorem le_refl (d : Date) : d ≤ d := Nat.le_refl d.ordinal

/-- Days that are not after each other are the same day. -/
theorem le_antisymm (hab : a ≤ b) (hba : b ≤ a) : a = b :=
  ordinal_injective (Nat.le_antisymm hab hba)

end Date

end TaskQuery
