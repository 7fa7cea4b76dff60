import TaskQuery.Calendar.Week

/-!
# Periods

A period is a day, a month or a year, named by one of its days and a precision.  A period has an
end inside the calendar, so the last day, month and year of the calendar form none.
-/

namespace TaskQuery

/-- How much of a date counts. -/
inductive Precision where
  /-- The day itself. -/
  | day
  /-- The month of the day. -/
  | month
  /-- The year of the day. -/
  | year
  deriving DecidableEq, Repr

namespace Precision

/-- The first day of the period around `d`. -/
def startOf (d : Date) : Precision → Date
  | day => d
  | month => d.firstOfMonth
  | year => ⟨d.year, 1, 1, d.isDate.1, d.isDate.2.1, by decide, by decide, by decide, by
      simp [daysInMonth]⟩

/-- The first day after the period around `d`. -/
def stopOf (d : Date) : Precision → Except CalendarError Date
  | day => (d.addDays 1).mapError fun _ => .endless
  | month => d.addMonths 1
  | year => match Date.ofParts? (d.year + 1) 1 1 with
    | some e => .ok e
    | none => .error (.noSuchYear (d.year + 1))

end Precision

/-- A day, month or year that ends inside the calendar. -/
structure Period where
  /-- A day of the period. -/
  date : Date
  /-- How much of the day counts. -/
  precision : Precision
  /-- The first day after the period. -/
  stop : Date
  /-- The end is that of the period around the day. -/
  stopOf_eq : precision.stopOf date = .ok stop
  deriving DecidableEq

namespace Period

/-- The period of the given precision around a day. -/
def ofDate (precision : Precision) (d : Date) : Except CalendarError Period :=
  match h : precision.stopOf d with
  | .ok stop => .ok ⟨d, precision, stop, h⟩
  | .error e => .error e

/-- The first day of the period. -/
def start (p : Period) : Date := p.precision.startOf p.date

/-- The days of the period. -/
def range (p : Period) : DateRange := ⟨p.start, p.stop⟩

/-- Whether a day lies in the period. -/
def contains (p : Period) (d : Date) : Bool := p.range.contains d

end Period

end TaskQuery
