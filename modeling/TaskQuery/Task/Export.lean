import TaskQuery.Json.Reader
import TaskQuery.Task.Record

/-!
# Task exports

A task export is a JSON file that holds either a list of task records, or an object with such a
list and the properties of each file by its path.  Either every record of the list is a task, or
the export is refused at the first one that is not.
-/

namespace TaskQuery

/-- The tasks of an export and the properties of their files. -/
structure TaskExport where
  /-- The tasks, in order. -/
  tasks : List Task
  /-- The properties of each file, by its path. -/
  properties : List (String × Entries)

namespace TaskExport

/-- What stands under the path of an export. -/
inductive Source where
  /-- There is no file. -/
  | missing
  /-- The file cannot be read, for the given reason. -/
  | unreadable (reason : String)
  /-- The bytes of a file. -/
  | bytes (content : ByteArray)

/-- Why an export is refused. -/
inductive Error where
  /-- There is no file. -/
  | missing
  /-- The file cannot be read, for the given reason. -/
  | unreadable (reason : String)
  /-- The file is not UTF-8. -/
  | notUtf8
  /-- The file is not JSON. -/
  | notJson
  /-- A number in the file is too long to be read. -/
  | hugeNumber
  /-- The file nests lists and objects deeper than there is room for. -/
  | tooDeep
  /-- The properties do not map paths to objects. -/
  | badProperties
  /-- The tasks are no list. -/
  | notAList
  /-- An element of the list is no object. -/
  | notAnObject (index : Nat)
  /-- An element of the list is no task. -/
  | notATask (index : Nat) (error : Task.RecordError)
  deriving DecidableEq, Repr

/-- What is wrong with the export, in words. -/
def Error.detail : Error → String
  | missing => "file not found"
  | unreadable reason => reason
  | notUtf8 => "not UTF-8"
  | notJson => "invalid JSON"
  | hugeNumber => "number too long"
  | tooDeep => "nested too deep"
  | badProperties => "'properties' must map file paths to objects"
  | notAList => "expected a list of tasks"
  | notAnObject index => "task #" ++ toString index ++ " is not an object"
  | notATask index error => "task #" ++ toString index ++ ": " ++ error.message

/-- The error in words, for an export at a path. -/
def Error.message (e : Error) (path : String) : String :=
  "Cannot load tasks from " ++ path ++ ": " ++ e.detail

/-- The properties of each file. -/
def readProperties : List (String × Value) → Except Error (List (String × Entries))
  | [] => .ok []
  | (path, .object bag) :: rest => do return (path, bag) :: (← readProperties rest)
  | _ => .error .badProperties

/-- The tasks of a list whose first element has the given index. -/
def readTasks (nesting index : Nat) : List Value → Except Error (List Task)
  | [] => .ok []
  | .object record :: rest => do
    let t ← (Task.ofRecord nesting record).mapError (.notATask index)
    return t :: (← readTasks nesting (index + 1) rest)
  | _ => .error (.notAnObject index)

/-- The tasks of a value, which has to be a list. -/
def readTaskList (nesting : Nat) : Value → Except Error (List Task)
  | .list vs => readTasks nesting 0 vs
  | _ => .error .notAList

/-- The export that a value holds. -/
def ofValue (nesting : Nat) : Value → Except Error TaskExport
  | .object entries => do
    let properties ← match Entries.get? entries "properties" with
      | none => pure []
      | some (.object bags) => readProperties bags
      | some _ => .error .badProperties
    let tasks ← readTaskList nesting ((Entries.get? entries "tasks").getD (.list []))
    return ⟨tasks, properties⟩
  | v => do return ⟨← readTaskList nesting v, []⟩

/-- The value that the text of an export holds. -/
def readText (nesting : Nat) (text : String) : Except Error Value :=
  (Json.read nesting text.toList).mapError fun
    | .malformed => .notJson
    | .hugeNumber => .hugeNumber
    | .tooDeep => .tooDeep

/-- The export under a path, read where lists and objects may be nested `nesting` deep. -/
def read (nesting : Nat) : Source → Except Error TaskExport
  | .missing => .error .missing
  | .unreadable reason => .error (.unreadable reason)
  | .bytes content =>
    match String.fromUTF8? content with
    | none => .error .notUtf8
    | some text => do ofValue nesting (← readText nesting text)

/-- The properties of the file at a path. -/
def propertiesOf (e : TaskExport) (path : String) : Entries := (e.properties.lookup path).getD []

end TaskExport

end TaskQuery
