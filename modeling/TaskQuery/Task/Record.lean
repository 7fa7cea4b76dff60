import TaskQuery.Calendar.Iso
import TaskQuery.Task.Basic
import TaskQuery.Text.Printable
import TaskQuery.Value.Printer

/-!
# Task records

A task is kept as an object with named fields.  Reading accepts two spellings of the longer names
and any value for the texts, which then count by their text; the path, the priority, the line and
the dates have to be of their kind.  Writing gives one spelling, fields in a fixed order.
-/

namespace TaskQuery.Task

/-- Why an object is no task. -/
inductive RecordError where
  /-- The path is missing, empty or no text. -/
  | noPath
  /-- The priority is neither a text nor null. -/
  | badPriority
  /-- The line is no whole number. -/
  | badLine
  /-- A date is neither a date nor a text. -/
  | notText (key typeName : String)
  /-- A date is a text that is no ISO date. -/
  | notIso (key text : String)
  /-- The value of a field for a text has none. -/
  | noText (fault : WriteFault)
  deriving DecidableEq, Repr

/-- The error in words. -/
def RecordError.message : RecordError → String
  | noPath => "task is missing 'path'"
  | badPriority => "'priority' must be a string or null"
  | badLine => "'line' must be an integer"
  | notText key typeName => "'" ++ key ++ "' must be an ISO date string, got " ++ typeName
  | notIso key text =>
    "'" ++ key ++ "' is not an ISO date: " ++ String.ofList (Text.quotedText text.toList)
  | noText fault => fault.message

/-- The name of a field for either of its spellings. -/
def fieldName : String → String
  | "rawText" => "raw_text"
  | "scheduledDate" => "scheduled_date"
  | "deadlineDate" => "deadline_date"
  | key => key

/-- A record with its fields under one spelling; the last of two spellings of a field counts. -/
def normalizeRecord (record : Entries) : Entries :=
  Entries.ofPairs (record.map fun (key, value) => (fieldName key, value))

/-- The text of a field: that of its value, or nothing when the value counts as false. -/
def textField (nesting : Nat) (fields : Entries) (key : String) : Except RecordError String :=
  match fields.get? key with
  | some v =>
    if v.isTruthy then (v.toText nesting).map String.ofList |>.mapError .noText else .ok ""
  | none => .ok ""

/-- The path of a record. -/
def pathField (fields : Entries) : Except RecordError String :=
  match fields.get? "path" with
  | some (.text p) => if p = "" then .error .noPath else .ok p
  | _ => .error .noPath

/-- The priority of a record; an empty one counts as none. -/
def priorityField (fields : Entries) : Except RecordError (Option String) :=
  match fields.get? "priority" with
  | none | some .null => .ok none
  | some (.text p) => .ok (if p = "" then none else some p)
  | _ => .error .badPriority

/-- The line of a record. -/
def lineField (fields : Entries) : Except RecordError Int :=
  match fields.get? "line" with
  | none => .ok 0
  | some (.int n) => .ok n
  | _ => .error .badLine

/-- A date of a record; `key` is the name that a message gives the field. -/
def dateField (fields : Entries) (name key : String) : Except RecordError (Option Stamp) :=
  match fields.get? name with
  | none | some .null | some (.text "") => .ok none
  | some (.stamp s) => .ok (some (.day s.date))
  | some (.text t) =>
    match Date.ofIso? (t.toList.take 10) with
    | some d => .ok (some (.day d))
    | none => .error (.notIso key t)
  | some v => .error (.notText key v.typeName)

/-- The task that a record holds, in whose fields values may stand `nesting` deep. -/
def ofRecord (nesting : Nat) (record : Entries) : Except RecordError Task := do
  let fields := normalizeRecord record
  let path ← pathField fields
  let priority ← priorityField fields
  let line ← lineField fields
  let rawText ← textField nesting fields "raw_text"
  let text ← textField nesting fields "text"
  let state ← textField nesting fields "state"
  let scheduled ← dateField fields "scheduled_date" "scheduledDate"
  let deadline ← dateField fields "deadline_date" "deadlineDate"
  return { path, priority, line, rawText, text, state, scheduled, deadline
           completed := (fields.get? "completed").any Value.isTruthy }

/-- A date as it is recorded. -/
def dateValue : Option Stamp → Value
  | some s => .text (String.ofList (s.textWith 'T'))
  | none => .null

/-- The record of a task. -/
def toRecord (t : Task) : Entries := [
  ("path", .text t.path),
  ("line", .int t.line),
  ("rawText", .text t.rawText),
  ("text", .text t.text),
  ("state", .text t.state),
  ("priority", match t.priority with
    | some p => .text p
    | none => .null),
  ("scheduledDate", dateValue t.scheduled),
  ("deadlineDate", dateValue t.deadline),
  ("completed", .bool t.completed)]

end TaskQuery.Task
