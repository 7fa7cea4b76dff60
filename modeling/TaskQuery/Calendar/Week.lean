import TaskQuery.Calendar.Date

/-!
# Weeks

The first day of the week is a setting.  A week is the half-open interval of seven days around a
day that begins on the chosen first day.
-/

namespace TaskQuery

/-- The day on which weeks begin. -/
inductive WeekStart where
  /-- Weeks run from Monday to Sunday. -/
  | monday
  /-- Weeks run from Sunday to Saturday. -/
  | sunday
  deriving DecidableEq, Repr

/-- The name of the day. -/
def WeekStart.name : WeekStart → String
  | .monday => "monday"
  | .sunday => "sunday"

/-- The week start with the given name. -/
def WeekStart.ofName? : String → Option WeekStart
  | "monday" => some .monday
  | "sunday" => some .sunday
  | _ => none

/-- The weekday names, Monday first. -/
def weekdayNames : List String :=
  ["monday", "tuesday", "wednesday", "thursday", "friday", "saturday", "sunday"]

/-- The days `start ≤ d < stop`. -/
structure DateRange where
  /-- The first day of the range. -/
  start : Date
  /-- The first day after the range. -/
  stop : Date
  deriving DecidableEq

/-- Whether a day lies in the range. -/
def DateRange.contains (r : DateRange) (d : Date) : Bool := r.start ≤ d && d < r.stop

namespace Date

/-- How many days of the week have passed before `d`. -/
def daysIntoWeek (d : Date) : WeekStart → Nat
  | .monday => d.weekday
  | .sunday => (d.weekday + 1) % 7

/-- The week of a day. -/
def week (d : Date) (weekStart : WeekStart) : Except CalendarError DateRange := do
  let start ← d.addDays (-(d.daysIntoWeek weekStart : Int))
  let stop ← start.addDays 7
  return ⟨start, stop⟩

end Date

end TaskQuery
