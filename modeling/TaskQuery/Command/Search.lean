import TaskQuery.Command.Request
import TaskQuery.Command.Session
import TaskQuery.Json.Writer
import TaskQuery.Match.Query
import TaskQuery.Task.Column
import TaskQuery.Task.Export
import TaskQuery.Terminal.Table

/-!
# Searching

A search reads a query and a task export, keeps the tasks that match, sorts and limits them, and
writes what is left.  The column to sort by is looked at first, then the query, then the export.
A search breaks off for a day outside the calendar, an export that is no text, and a value that is
too long or nested too deep to be read or written.
-/

namespace TaskQuery.Command

open Terminal

/-- The titles over the columns; only the text of a task goes on in the next line. -/
def searchColumns : List TableColumn :=
  Column.all.map fun c => { title := c.title, breaks := c = .text }

/-- The table of tasks. -/
def taskTable (tasks : List Task) : Table where
  columns := searchColumns
  rows := tasks.map fun t => Column.all.map fun c => plain (escape (c.cell t))

/-- The least width at which a table of tasks is drawn. -/
def leastTableWidth : Nat := 120

/-- What is said above the results of a query. -/
def resultsLine (query : String) (count : Nat) : List Char :=
  "Search: ".toList ++ query.toList ++ " (".toList ++ Text.decimal count ++ " results)".toList

/-- Tasks in a format. -/
def results (width : Nat) (format : Format) (query : String) (tasks : List Task) : Output :=
  match format with
  | .table => .info width (resultsLine query tasks.length) ++
      { out := (taskTable tasks).draw (max width leastTableWidth) }
  | .paths => tasks.foldl (fun o t => o ++ .line (Column.place t)) {}
  | .json => .line (Json.writeLines (.list (tasks.map fun t => .object t.toRecord))).toList

/-- What is said when nothing matches. -/
def noResults (s : Session) (format : Format) (query : String) : Output :=
  match format with
  | .json => .line ['[', ']']
  | _ => s.unlessQuiet (.info s.width ("No results for: ".toList ++ query.toList))

/-- The settings of a search; what is asked for goes before the configuration. -/
def searchSettings (s : Session) (r : SearchRequest) : Settings :=
  let settings := (s.config.settings? r.today).getD {}
  { settings with
    weekStart := r.weekStart.getD settings.weekStart
    strict := r.strict || settings.strict
    nesting := s.nesting }

/-- A request to sort by a column. -/
structure Order where
  /-- The column. -/
  column : Column
  /-- Whether to sort descending. -/
  descending : Bool

/-- The request to sort, when there is one; an unknown column is an error. -/
def orderOf (request : Option String) : Except String (Option Order) :=
  match request with
  | none => .ok none
  | some request =>
    let (name, descending) := Task.sortRequest request
    match Column.ofName? name with
    | some column => .ok (some ⟨column, descending⟩)
    | none => .error name

/-- Tasks in an order; none where they cannot be compared. -/
def sorted? (spellings : Spellings) (order : Option Order) (tasks : List Task) :
    Option (List Task) :=
  match order with
  | none => some tasks
  | some o =>
    if Task.canSort o.column tasks then
      some (Task.sortBy spellings o.column o.descending tasks)
    else none

/-- The end of a search that found tasks. -/
def finish (s : Session) (r : SearchRequest) (tasks : List Task) : Report :=
  let tasks := match r.limit with
    | some n => tasks.take n
    | none => tasks
  if tasks.isEmpty then { output := noResults s r.format r.query }
  else if r.format ≠ .json && !tasks.all Column.hasPlace then breaking .hugeNumber
  else { output := results s.width r.format r.query tasks }

/-- Search the tasks of an export. -/
def searchExport (s : Session) (r : SearchRequest) (order : Option Order) (q : Query)
    (e : TaskExport) : Report :=
  let settings := searchSettings s r
  let caseSensitive := r.caseSensitive.getD s.config.caseSensitive
  match q.filter caseSensitive settings e.propertiesOf s.today e.tasks with
  | .error (.calendar e) => breaking (.calendar e)
  | .error (.noText fault) => breaking (.ofWriteFault fault)
  | .error e => s.failure 1 ("Cannot evaluate query: " ++ e.message)
  | .ok found =>
    match sorted? settings.spellings order found with
    | none => breaking .incomparable
    | some tasks => finish s r tasks

/-- What is under the path of an export. -/
def sourceOf : FileState → TaskExport.Source
  | .missing => .missing
  | .folder refusal | .barred refusal | .tooLong refusal => .unreadable refusal
  | .file content => .bytes content

/-- Search the export under a path. -/
def searchSource (s : Session) (r : SearchRequest) (order : Option Order) (q : Query)
    (path : PathName) (source : TaskExport.Source) : Report :=
  match TaskExport.read s.nesting source with
  | .error .notUtf8 => breaking .notUtf8
  | .error .hugeNumber => breaking .hugeNumber
  | .error .tooDeep | .error (.notATask _ (.noText .tooDeep)) => breaking .tooDeep
  | .error e => s.failure 2 (e.message path.text)
  | .ok e =>
    let loaded := "Loaded ".toList ++ Text.decimal e.tasks.length ++ " tasks from ".toList ++
      path.text.toList
    (searchExport s r order q e).after (s.whenVerbose (.info s.width loaded))

/-- The path of the export: the one asked for, or else that of the configuration. -/
def exportPath (s : Session) (r : SearchRequest) : Except PathError (Option PathName) :=
  match r.tasks with
  | some text => (PathName.expandHome s.folders.home (.ofText text)).map some
  | none => .ok s.config.tasksFile

/-- Run a search. -/
def search (s : Session) (r : SearchRequest) : Access Report :=
  match orderOf r.sort with
  | .error name => .done (s.failureWithHint 1 ("Unknown sort column: " ++ name)
      ("Available: " ++ ", ".intercalate (Column.all.map Column.name)))
  | .ok order =>
    match Query.parse r.query with
    | .error e => .done ((s.failureWithHint 1 ("Invalid search query: " ++ e.fault.message)
        "Run 'todo-search check --tokens' to inspect the query").after
        (.caret s.width r.query.toList e.position))
    | .ok q =>
      match exportPath s r with
      | .error e => .done (breaking (.path e))
      | .ok none => .done (s.failureWithHint 2 "No tasks file given"
          "Pass --tasks or set paths.tasks_file in the config")
      | .ok (some path) => .look path fun state =>
          .done (searchSource s r order q path (sourceOf state))

end TaskQuery.Command
