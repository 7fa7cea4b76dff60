import TaskQuery.Text.Digit

/-!
# Calendar dates

Days of the proleptic Gregorian calendar in the years 1 to 9999.  A `Date` is a year, a month and
a day together with the fact that they name a day.  The *ordinal* counts days, with 1 for
0001-01-01; order, day arithmetic and weekdays go through it.  Arithmetic that would leave the
calendar gives a `CalendarError`.
-/

namespace TaskQuery

/-- Why a calendar computation has no result. -/
inductive CalendarError where
  /-- Counting days left the years 1 to 9999. -/
  | beyondCalendar
  /-- The month that was asked for lies in a year outside 1 to 9999. -/
  | noSuchYear (year : Int)
  /-- The day is the last one of the calendar, so that a period ending after it has no end. -/
  | endless
  deriving DecidableEq, Repr

/-- A leap year of the Gregorian calendar. -/
def isLeapYear (year : Nat) : Bool := year % 4 == 0 && (year % 100 != 0 || year % 400 == 0)

/-- The number of days in a month. -/
def daysInMonth (year : Nat) : (month : Nat) → Nat
  | 2 => if isLeapYear year then 29 else 28
  | 4 | 6 | 9 | 11 => 30
  | _ => 31

/-- The number of days before a year. -/
def daysBeforeYear (year : Nat) : Nat :=
  (year - 1) * 365 + (year - 1) / 4 - (year - 1) / 100 + (year - 1) / 400

/-- The number of days before a month in its year. -/
def daysBeforeMonth (year : Nat) : (month : Nat) → Nat
  | 0 | 1 => 0
  | month + 2 => daysBeforeMonth year (month + 1) + daysInMonth year (month + 1)

/-- Year, month and day name a day of the calendar. -/
def IsDate (year month day : Nat) : Prop :=
  1 ≤ year ∧ year ≤ 9999 ∧ 1 ≤ month ∧ month ≤ 12 ∧ 1 ≤ day ∧ day ≤ daysInMonth year month

/-- Whether numbers make up a date can be checked. -/
instance (year month day : Nat) : Decidable (IsDate year month day) :=
  inferInstanceAs (Decidable (_ ∧ _))

/-- A day of the years 1 to 9999. -/
structure Date where
  /-- The year, from 1 to 9999. -/
  year : Nat
  /-- The month, from 1 to 12. -/
  month : Nat
  /-- The day of the month, from 1. -/
  day : Nat
  /-- The three name a day. -/
  isDate : IsDate year month day
  deriving DecidableEq

namespace Date

/-- The date with these parts, if they name a day. -/
def ofParts? (year month day : Nat) : Option Date :=
  if h : IsDate year month day then some ⟨year, month, day, h⟩ else none

/-- The number of days up to and including this one, counted from 0001-01-01. -/
def ordinal (d : Date) : Nat := daysBeforeYear d.year + daysBeforeMonth d.year d.month + d.day

/-- The year in which the day with the given ordinal falls: whole 400-year cycles, centuries,
4-year cycles and years, where the last day of a cycle belongs to its last year. -/
def yearOfOrdinal (ordinal : Nat) : Nat :=
  let n := ordinal - 1
  let cycles := n / 146097
  let centuries := min (n % 146097 / 36524) 3
  let quads := (n % 146097 - centuries * 36524) / 1461
  let years := min ((n % 146097 - centuries * 36524) % 1461 / 365) 3
  cycles * 400 + centuries * 100 + quads * 4 + years + 1

/-- The month in which the given day of a year falls. -/
def monthOfDay (year dayOfYear : Nat) : Nat :=
  ((List.range' 1 12).find? fun m => dayOfYear ≤ daysBeforeMonth year (m + 1)).getD 12

/-- The date with the given ordinal. -/
def ofOrdinal? (ordinal : Int) : Option Date :=
  let n := ordinal.toNat
  let year := yearOfOrdinal n
  let dayOfYear := n - daysBeforeYear year
  let month := monthOfDay year dayOfYear
  ofParts? year month (dayOfYear - daysBeforeMonth year month)

/-- Days are ordered by their place in the calendar. -/
instance : LE Date := ⟨fun a b => a.ordinal ≤ b.ordinal⟩

/-- An earlier day comes before a later one. -/
instance : LT Date := ⟨fun a b => a.ordinal < b.ordinal⟩

/-- The order of two days can be checked. -/
instance (a b : Date) : Decidable (a ≤ b) := inferInstanceAs (Decidable (a.ordinal ≤ b.ordinal))

/-- Whether one day comes before another can be checked. -/
instance (a b : Date) : Decidable (a < b) := inferInstanceAs (Decidable (a.ordinal < b.ordinal))

/-- The day so many days later, or earlier when the number is negative. -/
def addDays (d : Date) (days : Int) : Except CalendarError Date :=
  match ofOrdinal? (d.ordinal + days) with
  | some e => .ok e
  | none => .error .beyondCalendar

/-- The first day of the month so many months after the month of `d`. -/
def addMonths (d : Date) (months : Int) : Except CalendarError Date :=
  let index := 12 * (d.year : Int) + ((d.month : Int) - 1) + months
  match ofParts? (index / 12).toNat (index % 12 + 1).toNat 1 with
  | some e => .ok e
  | none => .error (.noSuchYear (index / 12))

/-- The first of the month is a day whenever some day of the month is one. -/
theorem isDate_first (d : Date) : IsDate d.year d.month 1 := by
  obtain ⟨y1, y2, m1, m2, d1, d2⟩ := d.isDate
  exact ⟨y1, y2, m1, m2, Nat.le_refl 1, Nat.le_trans d1 d2⟩

/-- The first day of the month. -/
def firstOfMonth (d : Date) : Date := ⟨d.year, d.month, 1, d.isDate_first⟩

/-- The last day of the month. -/
def endOfMonth (d : Date) : Except CalendarError Date := do
  let next ← d.addMonths 1
  next.addDays (-1)

/-- Both days lie in the same month of the same year. -/
def sameMonth (a b : Date) : Bool := a.year == b.year && a.month == b.month

/-- The position of the weekday in the week, with 0 for Monday. -/
def weekday (d : Date) : Nat := (d.ordinal + 6) % 7

/-- The date as `YYYY-MM-DD`. -/
def text (d : Date) : List Char :=
  Text.paddedDecimal 4 d.year ++ '-' :: Text.paddedDecimal 2 d.month ++
    '-' :: Text.paddedDecimal 2 d.day

end Date

/-- A time of day, to the second. -/
structure TimeOfDay where
  /-- The hour. -/
  hour : Nat
  /-- The minute. -/
  minute : Nat
  /-- The second. -/
  second : Nat
  deriving DecidableEq

/-- The time as `HH:MM:SS`. -/
def TimeOfDay.text (t : TimeOfDay) : List Char :=
  Text.paddedDecimal 2 t.hour ++ ':' :: Text.paddedDecimal 2 t.minute ++
    ':' :: Text.paddedDecimal 2 t.second

/-- A day, or an instant of it when a time is given. -/
structure Stamp where
  /-- The day. -/
  date : Date
  /-- The time of day, for an instant. -/
  time : Option TimeOfDay
  deriving DecidableEq

namespace Stamp

/-- A whole day. -/
def day (d : Date) : Stamp := ⟨d, none⟩

/-- The stamp as text, with `separator` between the day and the time. -/
def textWith (separator : Char) (s : Stamp) : List Char :=
  match s.time with
  | none => s.date.text
  | some t => s.date.text ++ separator :: t.text

end Stamp

end TaskQuery
