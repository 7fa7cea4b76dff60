import TaskQuery.Calendar.Period
import TaskQuery.Text.Blank
import TaskQuery.Text.Reading

/-!
# Date filters

What the value of a date field can ask for, and when a day satisfies it.  The *buckets* are
relative to a reference day, the day treated as today; the other forms are fixed once read.
Whether a day lies in a bucket can fail at the edges of the calendar, where the bucket itself
cannot be computed.
-/

namespace TaskQuery

/-- A stretch of time relative to the reference day. -/
inductive Bucket where
  /-- Before the reference day. -/
  | overdue
  /-- On the reference day or before it. -/
  | due
  /-- The reference day. -/
  | today
  /-- The day after the reference day. -/
  | tomorrow
  /-- The week of the reference day. -/
  | thisWeek
  /-- The week after the week of the reference day. -/
  | nextWeek
  /-- The month of the reference day. -/
  | thisMonth
  /-- The month after the month of the reference day. -/
  | nextMonth
  /-- The reference day and so many days after it. -/
  | nextDays (count : Nat)
  deriving DecidableEq, Repr

/-- How a day is compared with a period. -/
inductive Comparison where
  /-- After the whole period. -/
  | after
  /-- Not before the period. -/
  | notBefore
  /-- Before the whole period. -/
  | before
  /-- Not after the period. -/
  | notAfter
  deriving DecidableEq, Repr

/-- What a date field may be asked for. -/
inductive DateFilter where
  /-- The task has no date. -/
  | absent
  /-- The date lies in a bucket. -/
  | bucket (b : Bucket)
  /-- The date lies in a period. -/
  | period (p : Period)
  /-- The date lies in a range of days. -/
  | range (r : DateRange)
  /-- The date compares so with a period. -/
  | comparison (c : Comparison) (p : Period)
  deriving DecidableEq

/-- Whether `d` is the reference day or one of the given number of days after it. -/
def Date.withinDays (d today : Date) (days : Int) : Bool :=
  today ≤ d && (d.ordinal : Int) - today.ordinal ≤ days

namespace Bucket

/-- The bucket as it is written. -/
def text : Bucket → List Char
  | overdue => "overdue".toList
  | due => "due".toList
  | today => "today".toList
  | tomorrow => "tomorrow".toList
  | thisWeek => "this week".toList
  | nextWeek => "next week".toList
  | thisMonth => "this month".toList
  | nextMonth => "next month".toList
  | nextDays n => "next ".toList ++ Text.decimal n ++ " days".toList

/-- The buckets with a fixed name. -/
def ofName? : String → Option Bucket
  | "overdue" => some overdue
  | "due" => some due
  | "today" => some today
  | "tomorrow" => some tomorrow
  | "this week" => some thisWeek
  | "next week" => some nextWeek
  | "this month" => some thisMonth
  | "next month" => some nextMonth
  | _ => none

/-- The words of a phrase that neither begins nor ends with a blank, one final line feed apart. -/
def phraseWords (s : List Char) : List (List Char) :=
  let body := if s.getLast? = some '\n' then s.dropLast else s
  if body.head?.any Text.isBlank || body.getLast?.any Text.isBlank then [] else Text.words body

/-- The digits between `next` and `days`. -/
def nextDaysDigits? (s : List Char) : Option (List Char) :=
  match phraseWords s with
  | [next, digits, days] =>
    if next = "next".toList && digits.all Text.isDigit &&
        (days = "days".toList || days = "day".toList) then some digits
    else none
  | _ => none

/-- The bucket with the given text; its number of days may have too many digits to be read. -/
def ofText (s : List Char) : Except ReadFault Bucket :=
  match ofName? (String.ofList s), nextDaysDigits? s with
  | some b, _ => .ok b
  | none, none => .error .malformed
  | none, some digits =>
    match Text.wholeNumber? digits with
    | some n => .ok (nextDays n)
    | none => .error .hugeNumber

/-- The bucket with the given text, when there is one. -/
def ofText? (s : List Char) : Option Bucket := (ofText s).toOption

/-- Whether a day lies in the bucket. -/
def contains (b : Bucket) (d today : Date) (weekStart : WeekStart) : Except CalendarError Bool :=
  match b with
  | .overdue => return d < today
  | .due => return d ≤ today
  | .today => return d = today
  | .tomorrow => return d = (← today.addDays 1)
  | .thisWeek => return (← today.week weekStart).contains d
  | .nextWeek => return (← (← today.addDays 7).week weekStart).contains d
  | .thisMonth => return d.sameMonth today
  | .nextMonth => return d.sameMonth (← today.addMonths 1)
  | .nextDays n => return d.withinDays today n

end Bucket

namespace Comparison

/-- The operator as it is written. -/
def symbol : Comparison → String
  | after => ">"
  | notBefore => ">="
  | before => "<"
  | notAfter => "<="

/-- The comparison with the given operator. -/
def ofSymbol? : String → Option Comparison
  | ">" => some after
  | ">=" => some notBefore
  | "<" => some before
  | "<=" => some notAfter
  | _ => none

/-- Whether a day compares so with a period. -/
def holds (c : Comparison) (d : Date) (p : Period) : Bool :=
  match c with
  | after => p.stop ≤ d
  | notBefore => p.start ≤ d
  | before => d < p.start
  | notAfter => d < p.stop

end Comparison

/-- Whether a date, or its absence, satisfies the filter. -/
def DateFilter.accepts (f : DateFilter) (date : Option Date) (today : Date)
    (weekStart : WeekStart) : Except CalendarError Bool :=
  match f, date with
  | .absent, date => return date.isNone
  | _, none => return false
  | .bucket b, some d => b.contains d today weekStart
  | .period p, some d => return p.contains d
  | .range r, some d => return r.contains d
  | .comparison c p, some d => return c.holds d p

end TaskQuery
