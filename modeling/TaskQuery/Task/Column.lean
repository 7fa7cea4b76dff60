import TaskQuery.Task.Basic
import TaskQuery.Task.Priority
import TaskQuery.Text.Digit

/-!
# Columns and order of tasks

Tasks are listed in columns and sorted by one of them.  Sorting is stable in both directions, and
the tasks that have nothing in the column come last in both.
-/

namespace TaskQuery

/-- The columns of a list of tasks. -/
inductive Column where
  /-- The state keyword. -/
  | state
  /-- The priority. -/
  | priority
  /-- The scheduled date. -/
  | scheduled
  /-- The deadline. -/
  | deadline
  /-- The text. -/
  | text
  /-- The path and line. -/
  | path
  deriving DecidableEq, Repr

namespace Column

/-- Every column, from left to right. -/
def all : List Column := [state, priority, scheduled, deadline, text, path]

/-- The name by which a column is asked for. -/
def name : Column → String
  | state => "state"
  | priority => "priority"
  | scheduled => "scheduled"
  | deadline => "deadline"
  | text => "text"
  | path => "path"

/-- The column with the given name. -/
def ofName? (s : String) : Option Column := all.find? (·.name == s)

/-- The title over a column. -/
def title : Column → String
  | state => "State"
  | priority => "Pri"
  | scheduled => "Scheduled"
  | deadline => "Deadline"
  | text => "Task"
  | path => "File"

/-- The place of a task: its path and its line, counted from one. -/
def place (t : Task) : List Char := t.path.toList ++ ':' :: Text.signedDecimal (t.line + 1)

/-- Whether the place of a task can be written. -/
def hasPlace (t : Task) : Bool := Text.isWritable (t.line + 1)

/-- A date in a column. -/
def dateCell : Option Stamp → List Char
  | some s => s.textWith 'T'
  | none => []

/-- What a task has in a column. -/
def cell (c : Column) (t : Task) : List Char :=
  match c with
  | state => t.state.toList
  | priority => (t.priority.getD "").toList
  | scheduled => dateCell t.scheduled
  | deadline => dateCell t.deadline
  | text => if t.text = "" then t.rawText.toList else t.text.toList
  | path => place t

end Column

namespace Task

/-- What a task is sorted by, compared as lists of numbers. -/
abbrev SortKey := List Nat

/-- A text as a sort key: its lower-case code points; none for an empty one. -/
def textKey? (s : String) : Option SortKey :=
  if s = "" then none else some ((Text.lower s.toList).map Char.toNat)

/-- A stamp as a sort key: the day, and for an instant the second of the day. -/
def stampKey (s : Stamp) : SortKey :=
  s.date.ordinal :: (match s.time with
    | none => []
    | some t => [t.hour * 3600 + t.minute * 60 + t.second])

/-- What a task has in a column to be sorted by. -/
def sortKey? (spellings : Spellings) (c : Column) (t : Task) : Option SortKey :=
  match c with
  | .state => textKey? t.state
  | .text => textKey? t.text
  | .path => textKey? t.path
  | .scheduled => t.scheduled.map stampKey
  | .deadline => t.deadline.map stampKey
  | .priority =>
    ((spellings.normalize t.priority).bind Priority.ofName?).map fun p => [p.rank]

/-- The task goes before the other one, or may stay before it. -/
def mayPrecede (descending : Bool) (a b : SortKey × Task) : Bool :=
  if descending then !decide (a.1 < b.1) else !decide (b.1 < a.1)

/-- Sort tasks by a column. -/
def sortBy (spellings : Spellings) (c : Column) (descending : Bool) (ts : List Task) :
    List Task :=
  let keyed := ts.filterMap fun t => (sortKey? spellings c t).map (·, t)
  let missing := ts.filter fun t => (sortKey? spellings c t).isNone
  (keyed.mergeSort (mayPrecede descending)).map Prod.snd ++ missing

/-- The date of a task in a column of dates. -/
def stampIn (c : Column) (t : Task) : Option Stamp :=
  match c with
  | .scheduled => t.scheduled
  | .deadline => t.deadline
  | _ => none

/-- Whether tasks can be sorted by a column: whole days and instants do not compare. -/
def canSort (c : Column) (ts : List Task) : Bool :=
  let stamps := ts.filterMap (stampIn c)
  stamps.all (·.time.isSome) || stamps.all (·.time.isNone)

/-- A request to sort: the name of a column, with dashes in front of it to sort descending. -/
def sortRequest (request : String) : String × Bool :=
  (String.ofList (request.toList.dropWhile (· = '-')), request.toList.head? = some '-')

end Task

end TaskQuery
