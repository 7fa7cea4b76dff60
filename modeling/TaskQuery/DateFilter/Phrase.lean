import TaskQuery.DateFilter.Basic
import TaskQuery.Text.Casing

/-!
# Date phrases

The closed set of English phrases that name a day relative to a reference day: today, tomorrow,
yesterday, a weekday of this, the next or the last week, a number of days or weeks from or before
the reference day, and the first or last day of its week or month.
-/

namespace TaskQuery

/-- Which occurrence of a weekday is meant. -/
inductive Occurrence where
  /-- The next one after the reference day. -/
  | next
  /-- The one in the week of the reference day. -/
  | this
  /-- The last one before the reference day. -/
  | last
  deriving DecidableEq, Repr

/-- The two ends of a week or month. -/
inductive Edge where
  /-- The first day. -/
  | first
  /-- The last day. -/
  | last
  deriving DecidableEq, Repr

/-- A phrase that names a day. -/
inductive Phrase where
  /-- A day counted from the reference day, as in `yesterday` and `3 weeks ago`. -/
  | shifted (days : Int)
  /-- A day counted forward, written `in 3 days` or `in 2 weeks`. -/
  | inDays (days : Nat)
  /-- A weekday; 0 is Monday. -/
  | weekday (which : Occurrence) (target : Nat)
  /-- An end of the reference day's week. -/
  | weekEdge (edge : Edge)
  /-- An end of the reference day's month. -/
  | monthEdge (edge : Edge)
  deriving DecidableEq, Repr

namespace Phrase

/-- The number of days in a unit of time. -/
def unitDays? (unit : List Char) : Option Nat :=
  match String.ofList unit with
  | "day" | "days" => some 1
  | "week" | "weeks" => some 7
  | _ => none

/-- A number of units as a number of days. -/
def amount? (digits unit : List Char) : Option Nat := do
  let days ← unitDays? unit
  let n ← Text.wholeNumber? digits
  return n * days

/-- The occurrence with the given name. -/
def occurrence? (w : List Char) : Option Occurrence :=
  match String.ofList w with
  | "next" => some .next
  | "this" => some .this
  | "last" => some .last
  | _ => none

/-- The edge with the given name. -/
def edge? (w : List Char) : Option Edge :=
  match String.ofList w with
  | "start" | "beginning" => some .first
  | "end" => some .last
  | _ => none

/-- The edge of the given unit. -/
def edgeOf? (edge unit : List Char) : Option Phrase := do
  let e ← edge? edge
  match String.ofList unit with
  | "week" => some (weekEdge e)
  | "month" => some (monthEdge e)
  | _ => none

/-- Read a phrase from its lower-case words. -/
def ofWords? : List (List Char) → Option Phrase
  | [w] =>
    match String.ofList w with
    | "today" => some (shifted 0)
    | "tomorrow" => some (shifted 1)
    | "yesterday" => some (shifted (-1))
    | _ => none
  | [which, day] => do
    let o ← occurrence? which
    let target ← weekdayNames.idxOf? (String.ofList day)
    return weekday o target
  | [a, b, c] =>
    if a = "in".toList then (amount? b c).map inDays
    else if c = "ago".toList then (amount? a b).map fun n => shifted (-n)
    else if b = "of".toList then edgeOf? a c
    else none
  | [edge, of, the, unit] =>
    if of = "of".toList && the = "the".toList then edgeOf? edge unit else none
  | _ => none

/-- Whether the phrase is read as a date value without double quotes around it. -/
def standsUnquoted : Phrase → Bool
  | weekday .. | inDays _ => true
  | _ => false

/-- The day that the phrase names. -/
def day (p : Phrase) (today : Date) (weekStart : WeekStart) : Except CalendarError Date :=
  match p with
  | shifted n => today.addDays n
  | inDays n => today.addDays n
  | weekday .next target =>
    let delta := (7 + target - today.weekday) % 7
    today.addDays (if delta = 0 then 7 else (delta : Int))
  | weekday .last target =>
    let delta := (7 + today.weekday - target) % 7
    today.addDays (-(if delta = 0 then 7 else (delta : Int)))
  | weekday .this target => do
    let week ← today.week weekStart
    week.start.addDays ((7 + target - week.start.weekday) % 7 : Nat)
  | weekEdge .first => return (← today.week weekStart).start
  | weekEdge .last => do (← today.week weekStart).stop.addDays (-1)
  | monthEdge .first => return today.firstOfMonth
  | monthEdge .last => today.endOfMonth

/-- The day that a text in any letter case and spacing names, as a period. -/
def resolve? (text : String) (today : Date) (weekStart : WeekStart) : Option Period := do
  let phrase ← ofWords? (Text.words (Text.lower text.toList))
  let d ← (phrase.day today weekStart).toOption
  (Period.ofDate .day d).toOption

end Phrase

end TaskQuery
