import TaskQuery.Calendar.Week
import TaskQuery.Task.Basic
import TaskQuery.Task.Keyword
import TaskQuery.Task.Priority
import TaskQuery.Text.Casing
import TaskQuery.Text.Printable
import TaskQuery.Value.Printer

/-!
# What a match depends on

Besides the query, a match depends on the task, the properties of its file, the letter case mode
and a few settings.  The day is an input of its own: `clock` is the current day, and the
reference day of the settings takes its place wherever a query speaks of today.  A text property
that names a day relative to today is read by the clock.
-/

namespace TaskQuery

/-- What influences matching but not parsing. -/
structure Settings where
  /-- The state keywords of each group. -/
  keywords : Keywords := Keywords.builtin
  /-- The spellings of each priority. -/
  spellings : Spellings := Spellings.builtin
  /-- The first day of the week. -/
  weekStart : WeekStart := .monday
  /-- The day treated as today, when it is not the current one. -/
  referenceDay : Option Date := none
  /-- Whether a filter that cannot be applied is an error instead of no match. -/
  strict : Bool := false
  /-- How deep values may stand inside a property that is compared as text. -/
  nesting : Nat := Value.usualNesting

/-- What is said of a name that is no week start. -/
def Settings.unknownWeekStart (name : String) : String :=
  "week_starts_on must be 'monday' or 'sunday', got " ++
    String.ofList (Text.quotedText name.toList)

/-- The settings with the first day of the week by its name. -/
def Settings.startingOn (s : Settings) (name : String) : Except String Settings :=
  match WeekStart.ofName? name with
  | some weekStart => .ok { s with weekStart }
  | none => .error (unknownWeekStart name)

/-- A task together with all else that a match depends on. -/
structure Scope where
  /-- The task. -/
  task : Task
  /-- Whether letter case counts. -/
  caseSensitive : Bool
  /-- The settings. -/
  settings : Settings
  /-- The properties of the task's file. -/
  properties : Entries
  /-- The current day. -/
  clock : Date

namespace Scope

/-- The day treated as today. -/
def today (s : Scope) : Date := s.settings.referenceDay.getD s.clock

/-- A text as it is compared: in lower case unless letter case counts. -/
def fold (s : Scope) (text : List Char) : List Char :=
  if s.caseSensitive then text else Text.lower text

end Scope

/-- Why a filter cannot be applied. -/
inductive FilterFault where
  /-- There is no such field. -/
  | unknownField (name : String)
  /-- The value of a date field is no date. -/
  | notADate (value : String)
  /-- The end of a range is no day or period. -/
  | notABound (value : String)
  /-- The field of a range holds no date. -/
  | notADateField (name : String)
  deriving DecidableEq, Repr

/-- Why a match has no answer. -/
inductive MatchError where
  /-- A filter cannot be applied. -/
  | filter (fault : FilterFault)
  /-- A conjunction without operands. -/
  | emptyAnd
  /-- A disjunction without operands. -/
  | emptyOr
  /-- A day that the match needs lies outside the calendar. -/
  | calendar (error : CalendarError)
  /-- A property that is compared as text has none. -/
  | noText (fault : WriteFault)
  deriving DecidableEq, Repr

namespace FilterFault

/-- The fault in words. -/
def message : FilterFault → String
  | unknownField name => "Unknown search field: " ++ name
  | notADate value => "Unrecognized date value: " ++ value
  | notABound value => "Unrecognized range bound: " ++ value
  | notADateField name => "Range filter on unsupported field: " ++ name

/-- The field that is at fault. -/
def field? : FilterFault → Option String
  | unknownField name | notADateField name => some name
  | notADate _ | notABound _ => none

end FilterFault

/-- The error in words. -/
def MatchError.message : MatchError → String
  | filter fault => fault.message
  | emptyAnd => "AND node has no children"
  | emptyOr => "OR node has no children"
  | calendar _ => "date out of range"
  | noText fault => fault.message

/-- A calendar computation inside a match. -/
def MatchError.ofCalendar {α : Type} (r : Except CalendarError α) : Except MatchError α :=
  r.mapError .calendar

/-- The text of a value inside a match. -/
def MatchError.ofText {α : Type} (r : Except WriteFault α) : Except MatchError α :=
  r.mapError .noText

end TaskQuery
