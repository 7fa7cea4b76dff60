import Mathlib.Logic.ExistsUnique
import TaskQuery.Proofs.Calendar.DayCount

/-!
# Weekdays

Of seven days in a row each falls on another weekday, so a weekday names one of them.

* `FallsOn`: the weekday of a day, by its name.
* `eq_of_fallsOn`, `existsUnique_fallsOn`: of seven days in a row exactly one falls on a weekday.
* `BeginsWeek`: the first day of the week around a day, for each way of counting weeks;
  `existsUnique_beginsWeek` says that there is one, and `exists_week_eq_ok` and
  `exists_week_contains` that the week is found from it.

The first days of the calendar belong to a week that may begin before it.
-/

namespace TaskQuery

namespace Date

/-- The day falls on the weekday of that name. -/
def FallsOn (d : Date) (name : String) : Prop := weekdayNames[d.weekday]? = some name

/-- Whether a day falls on a weekday can be checked. -/
instance (d : Date) (name : String) : Decidable (d.FallsOn name) :=
  inferInstanceAs (Decidable (_ = _))

variable {d e first today : Date} {name : String} {w : WeekStart} {n : Nat}

/-- A weekday has one place in the week. -/
theorem exists_fallsOn_iff (h : name ∈ weekdayNames) : ∃ target < 7,
    weekdayNames.idxOf? name = some target ∧ ∀ d : Date, d.FallsOn name ↔ d.weekday = target := by
  have hplaces : ∀ name ∈ weekdayNames, ∃ target < 7, weekdayNames.idxOf? name = some target ∧
      ∀ place < 7, weekdayNames[place]? = some name ↔ place = target := by decide
  obtain ⟨target, hlt, hidx, hplace⟩ := hplaces name h
  exact ⟨target, hlt, hidx, fun d => hplace d.weekday (Nat.mod_lt _ (by decide))⟩

/-- What a day falls on is the name of a weekday. -/
theorem mem_weekdayNames_of_fallsOn (h : d.FallsOn name) : name ∈ weekdayNames :=
  List.mem_of_getElem? h

/-- Of seven days in a row no two fall on the same weekday. -/
theorem eq_of_fallsOn (hd : d.FallsOn name) (he : e.FallsOn name) (hdn : n ≤ d.ordinal)
    (hdn' : d.ordinal < n + 7) (hen : n ≤ e.ordinal) (hen' : e.ordinal < n + 7) : d = e := by
  obtain ⟨target, -, -, hfalls⟩ := exists_fallsOn_iff (mem_weekdayNames_of_fallsOn hd)
  have hd := (hfalls d).1 hd
  have he := (hfalls e).1 he
  rw [weekday] at hd he
  exact ordinal_injective (by omega)

/-- **Of seven days in a row exactly one falls on a weekday.** -/
theorem existsUnique_fallsOn (hname : name ∈ weekdayNames) (hn : 1 ≤ n) (hn' : n + 6 ≤ maxOrdinal) :
    ∃! d : Date, n ≤ d.ordinal ∧ d.ordinal < n + 7 ∧ d.FallsOn name := by
  obtain ⟨target, hlt, -, hfalls⟩ := exists_fallsOn_iff hname
  obtain ⟨d, hd⟩ := exists_ordinal_eq_iff (n := n + (target + 7 - (n + 6) % 7) % 7).2
    ⟨by omega, by omega⟩
  have hday : d.weekday = target := by
    rw [weekday]
    omega
  have hfirst : n ≤ d.ordinal := by omega
  have hlast : d.ordinal < n + 7 := by omega
  refine ⟨d, ⟨hfirst, hlast, (hfalls d).2 hday⟩, ?_⟩
  rintro e ⟨he, he', hefalls⟩
  exact eq_of_fallsOn hefalls ((hfalls d).2 hday) he he' hfirst hlast

/-! ## Weeks -/

/-- The week around `today` begins on `first`: this is the day on which weeks begin, and `today` is
one of the seven days from it on. -/
def BeginsWeek (first today : Date) (w : WeekStart) : Prop :=
  first ≤ today ∧ today.ordinal < first.ordinal + 7 ∧ first.FallsOn w.name

/-- Whether a day begins the week of another one can be checked. -/
instance (first today : Date) (w : WeekStart) : Decidable (first.BeginsWeek today w) :=
  inferInstanceAs (Decidable (_ ∧ _))

/-- The names of the first days of the week are names of weekdays. -/
theorem name_mem_weekdayNames (w : WeekStart) : w.name ∈ weekdayNames := by
  cases w <;> decide

/-- Every week begins on one day. -/
theorem existsUnique_beginsWeek (h : 7 ≤ today.ordinal) (w : WeekStart) :
    ∃! first : Date, first.BeginsWeek today w := by
  have hmax := today.ordinal_le_maxOrdinal
  obtain ⟨first, ⟨hfrom, hupTo, hfalls⟩, hunique⟩ := existsUnique_fallsOn
    (n := today.ordinal - 6) (name_mem_weekdayNames w) (by omega) (by omega)
  refine ⟨first, ⟨?_, by omega, hfalls⟩, ?_⟩
  · show first.ordinal ≤ today.ordinal
    omega
  · rintro e ⟨hle, hlt, hefalls⟩
    have hle : e.ordinal ≤ today.ordinal := hle
    exact hunique e ⟨by omega, by omega, hefalls⟩

/-- The day on which weeks begin is the one before which none of the week has passed. -/
theorem fallsOn_name_iff : d.FallsOn w.name ↔ d.daysIntoWeek w = 0 := by
  have hplaces : ∀ w : WeekStart, ∀ place < 7, weekdayNames[place]? = some w.name ↔
      (match w with | .monday => place | .sunday => (place + 1) % 7) = 0 := by
    intro w
    cases w <;> decide
  have hday := hplaces w d.weekday (Nat.mod_lt _ (by decide))
  cases w <;> exact hday

/-- So many days of the week have passed as lie between its first day and the day. -/
theorem beginsWeek_iff : first.BeginsWeek today w ↔
    first.ordinal + today.daysIntoWeek w = today.ordinal := by
  have hpassed : today.daysIntoWeek w < 7 := today.daysIntoWeek_lt w
  rw [BeginsWeek, fallsOn_name_iff]
  show first.ordinal ≤ today.ordinal ∧ _ ↔ _
  cases w with
  | monday =>
    simp only [daysIntoWeek, weekday] at *
    omega
  | sunday =>
    simp only [daysIntoWeek, weekday] at *
    omega

/-- **The week of a day** runs over the seven days from the day on which it begins. -/
theorem exists_week_eq_ok (h : 7 ≤ today.ordinal) (h' : today.ordinal + 7 ≤ maxOrdinal)
    (w : WeekStart) : ∃ week, today.week w = .ok week ∧ week.start.BeginsWeek today w ∧
      week.stop.ordinal = week.start.ordinal + 7 := by
  have hpassed := today.daysIntoWeek_lt w
  obtain ⟨week, hweek⟩ := (exists_week_iff (d := today) (w := w)).2 ⟨by omega, by omega⟩
  obtain ⟨hstart, hstop⟩ := week_eq_ok_iff.1 hweek
  exact ⟨week, hweek, beginsWeek_iff.2 hstart, hstop⟩

/-- The days of a week are the seven days from its first one on. -/
theorem contains_week {week : DateRange} {d : Date}
    (hstop : week.stop.ordinal = week.start.ordinal + 7) : week.contains d =
      decide (week.start.ordinal ≤ d.ordinal ∧ d.ordinal < week.start.ordinal + 7) := by
  rw [DateRange.contains, Bool.decide_and, ← hstop]
  rfl

/-- The week of a day holds the seven days from the day on which it begins. -/
theorem exists_week_contains (h : 7 ≤ today.ordinal) (h' : today.ordinal + 7 ≤ maxOrdinal)
    (hfirst : first.BeginsWeek today w) : ∃ week, today.week w = .ok week ∧
      ∀ d, week.contains d =
        decide (first.ordinal ≤ d.ordinal ∧ d.ordinal < first.ordinal + 7) := by
  obtain ⟨week, hweek, hstart, hstop⟩ := exists_week_eq_ok h h' w
  have hthis := beginsWeek_iff.1 hfirst
  have hthat := beginsWeek_iff.1 hstart
  have hsame : week.start.ordinal = first.ordinal := by omega
  refine ⟨week, hweek, fun d => ?_⟩
  rw [contains_week hstop, hsame]

end Date

end TaskQuery
