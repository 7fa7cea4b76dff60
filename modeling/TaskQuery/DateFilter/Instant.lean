import TaskQuery.DateFilter.Phrase
import TaskQuery.Result

/-!
# Instants as reference

The reference may be an instant instead of a day.  Instants are ordered by their day and time, and
a phrase then names an instant with the time of the reference.  A day and an instant are never
equal and have no order, so that a bucket around an instant holds no day or has no answer for it,
unless it only looks at the month.  Where the reference is a day, nothing changes
(`DateFilter.acceptsFor_day`).
-/

namespace TaskQuery

/-- Why a question about days and instants has no answer. -/
inductive StampError where
  /-- A day that is needed lies outside the calendar. -/
  | calendar (error : CalendarError)
  /-- A day and an instant have no order. -/
  | unordered
  deriving DecidableEq, Repr

namespace StampError

/-- A calendar computation as part of an answer. -/
def ofCalendar {α : Type} (r : Except CalendarError α) : Except StampError α :=
  r.mapError calendar

end StampError

namespace Stamp

/-- The seconds up to a stamp, the start of a day. -/
def seconds (s : Stamp) : Nat :=
  86400 * s.date.ordinal + (match s.time with
    | none => 0
    | some t => 3600 * t.hour + 60 * t.minute + t.second)

/-- How two stamps of one kind differ, in seconds. -/
def secondsAfter (a b : Stamp) : Except StampError Int :=
  if a.time.isSome = b.time.isSome then .ok ((a.seconds : Int) - b.seconds) else .error .unordered

/-- Whether `a` comes before `b`. -/
def isBefore (a b : Stamp) : Except StampError Bool :=
  (a.secondsAfter b).map fun n => decide (n < 0)

/-- Whether `a` does not come after `b`. -/
def isUpTo (a b : Stamp) : Except StampError Bool :=
  (a.secondsAfter b).map fun n => decide (n ≤ 0)

/-- Whether a stamp lies on the reference or less than `days + 1` days after it. -/
def withinDays (s reference : Stamp) (days : Int) : Except StampError Bool :=
  (s.secondsAfter reference).map fun n => 0 ≤ n && n / 86400 ≤ days

/-- The stamp so many days later, at the same time. -/
def addDays (s : Stamp) (days : Int) : Except CalendarError Stamp := do
  return ⟨← s.date.addDays days, s.time⟩

/-- Stamps of days are equal as the days are. -/
theorem day_eq_day (a b : Date) : day a = day b ↔ a = b := by
  simp [day]

/-- Days differ by whole days of seconds. -/
theorem secondsAfter_day (a b : Date) :
    (day a).secondsAfter (day b) = .ok (86400 * ((a.ordinal : Int) - b.ordinal)) := by
  simp only [secondsAfter, day, seconds, ↓reduceIte, Nat.add_zero]
  congr 1
  omega

/-- Stamps of days are ordered as the days are. -/
theorem isBefore_day (a b : Date) : (day a).isBefore (day b) = .ok (decide (a < b)) := by
  rw [isBefore, secondsAfter_day]
  exact congrArg Except.ok (decide_eq_decide.2
    (by show _ ↔ a.ordinal < b.ordinal; omega))

/-- Stamps of days are ordered as the days are, also where they may be equal. -/
theorem isUpTo_day (a b : Date) : (day a).isUpTo (day b) = .ok (decide (a ≤ b)) := by
  rw [isUpTo, secondsAfter_day]
  exact congrArg Except.ok (decide_eq_decide.2
    (by show _ ↔ a.ordinal ≤ b.ordinal; omega))

/-- For days, a number of days after the reference is counted in days. -/
theorem withinDays_day (d today : Date) (days : Int) :
    (day d).withinDays (day today) days = .ok (d.withinDays today days) := by
  rw [withinDays, secondsAfter_day]
  refine congrArg Except.ok ?_
  rw [Date.withinDays, Bool.eq_iff_iff]
  simp only [Bool.and_eq_true, decide_eq_true_eq]
  show _ ↔ today.ordinal ≤ d.ordinal ∧ _
  omega

/-- The stamp of a day so many days later is that of the later day. -/
theorem addDays_day (d : Date) (days : Int) : (day d).addDays days = (d.addDays days).map day := by
  unfold addDays day
  cases d.addDays days <;> rfl

end Stamp

/-- The stamps from a start to a stop, the stop left out. -/
structure StampRange where
  /-- The first stamp. -/
  start : Stamp
  /-- The first stamp after it. -/
  stop : Stamp
  deriving DecidableEq

namespace StampRange

/-- Whether a stamp lies in the range; what comes before the start is not compared with the
stop. -/
def contains (r : StampRange) (s : Stamp) : Except StampError Bool := do
  if ← r.start.isUpTo s then s.isBefore r.stop else return false

/-- The week of a stamp. -/
def week (s : Stamp) (weekStart : WeekStart) : Except CalendarError StampRange := do
  let days ← s.date.week weekStart
  return ⟨⟨days.start, s.time⟩, ⟨days.stop, s.time⟩⟩

/-- The period of a precision around a stamp.  The ends of a year and the end of a month are
days; all else has the time of the stamp. -/
def period (precision : Precision) (s : Stamp) : Except CalendarError StampRange := do
  let stop ← precision.stopOf s.date
  return match precision with
    | .day => ⟨s, ⟨stop, s.time⟩⟩
    | .month => ⟨⟨s.date.firstOfMonth, s.time⟩, .day stop⟩
    | .year => ⟨.day (Precision.year.startOf s.date), .day stop⟩

/-- A range of days holds the stamp of a day if it holds the day. -/
theorem contains_day (r : DateRange) (d : Date) :
    contains ⟨.day r.start, .day r.stop⟩ (.day d) = .ok (r.contains d) := by
  simp only [contains, Stamp.isUpTo_day, Stamp.isBefore_day, DateRange.contains, bind, Except.bind]
  by_cases h : r.start ≤ d <;> simp [h, pure, Except.pure]

/-- The week of the stamp of a day is that of the day. -/
theorem week_day (d : Date) (w : WeekStart) :
    week (.day d) w = (d.week w).map fun r => ⟨.day r.start, .day r.stop⟩ := by
  unfold week
  show (d.week w >>= _) = _
  cases d.week w <;> rfl

end StampRange

/-- Whether a stamp lies in a bucket around a reference. -/
def Bucket.containsStamp (b : Bucket) (s reference : Stamp) (weekStart : WeekStart) :
    Except StampError Bool :=
  match b with
  | .overdue => s.isBefore reference
  | .due => s.isUpTo reference
  | .today => return s = reference
  | .tomorrow => return s = (← StampError.ofCalendar (reference.addDays 1))
  | .thisWeek => do (← StampError.ofCalendar (StampRange.week reference weekStart)).contains s
  | .nextWeek => do
    let next ← StampError.ofCalendar (reference.addDays 7)
    (← StampError.ofCalendar (StampRange.week next weekStart)).contains s
  | .thisMonth => return s.date.sameMonth reference.date
  | .nextMonth => return s.date.sameMonth (← StampError.ofCalendar (reference.date.addMonths 1))
  | .nextDays n => s.withinDays reference n

/-- Around a day, a bucket holds the stamps of the days that it holds. -/
theorem Bucket.containsStamp_day (b : Bucket) (d today : Date) (weekStart : WeekStart) :
    b.containsStamp (.day d) (.day today) weekStart =
      StampError.ofCalendar (b.contains d today weekStart) := by
  cases b with
  | overdue => exact Stamp.isBefore_day d today
  | due => exact Stamp.isUpTo_day d today
  | today => exact congrArg Except.ok (decide_eq_decide.2 (Stamp.day_eq_day d today))
  | tomorrow =>
    simp only [containsStamp, contains, Stamp.addDays_day]
    cases today.addDays 1 with
    | error e => rfl
    | ok t => exact congrArg Except.ok (decide_eq_decide.2 (Stamp.day_eq_day d t))
  | thisWeek =>
    simp only [containsStamp, contains, StampRange.week_day]
    cases today.week weekStart with
    | error e => rfl
    | ok r => exact StampRange.contains_day r d
  | nextWeek =>
    simp only [containsStamp, contains, Stamp.addDays_day]
    cases today.addDays 7 with
    | error e => rfl
    | ok t =>
      have hday : StampError.ofCalendar ((.ok t : Except CalendarError Date).map Stamp.day) =
          .ok (.day t) := rfl
      rw [hday, ok_bind, ok_bind, StampRange.week_day]
      cases t.week weekStart with
      | error e => rfl
      | ok r => exact StampRange.contains_day r d
  | thisMonth => rfl
  | nextMonth =>
    simp only [containsStamp, contains, Stamp.day]
    cases today.addMonths 1 <;> rfl
  | nextDays n => exact Stamp.withinDays_day d today n

/-- Whether a date, or its absence, satisfies the filter for a reference. -/
def DateFilter.acceptsFor (f : DateFilter) (date : Option Date) (reference : Stamp)
    (weekStart : WeekStart) : Except StampError Bool :=
  match f, date with
  | .bucket b, some d => b.containsStamp (.day d) reference weekStart
  | f, date => StampError.ofCalendar (f.accepts date reference.date weekStart)

/-- For a day as reference the answer is that of the days. -/
theorem DateFilter.acceptsFor_day (f : DateFilter) (date : Option Date) (today : Date)
    (weekStart : WeekStart) :
    f.acceptsFor date (.day today) weekStart =
      StampError.ofCalendar (f.accepts date today weekStart) := by
  cases f with
  | bucket b =>
    cases date with
    | none => rfl
    | some d => exact Bucket.containsStamp_day b d today weekStart
  | _ => cases date <;> rfl

/-- How a comparison with a period around a stamp turns out. -/
def Comparison.holdsFor (c : Comparison) (s : Stamp) (p : StampRange) : Except StampError Bool :=
  match c with
  | after => p.stop.isUpTo s
  | notBefore => p.start.isUpTo s
  | before => s.isBefore p.start
  | notAfter => s.isBefore p.stop

namespace Phrase

/-- Whether the phrase names an instant with the time of the reference; the end of a month is a
day. -/
def keepsTime : Phrase → Bool
  | monthEdge .last => false
  | _ => true

/-- The stamp that a text in any letter case and spacing names. -/
def resolveStamp? (text : String) (reference : Stamp) (weekStart : WeekStart) : Option Stamp := do
  let phrase ← ofWords? (Text.words (Text.lower text.toList))
  let p ← resolve? text reference.date weekStart
  return ⟨p.date, if phrase.keepsTime then reference.time else none⟩

end Phrase

end TaskQuery
