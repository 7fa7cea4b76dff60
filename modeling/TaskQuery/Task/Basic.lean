import TaskQuery.Calendar.Date
import TaskQuery.Text.Span
import TaskQuery.Text.Word

/-!
# Tasks

A task is one line of a notes file.  Its tags are read off the line, its file name off the path.
-/

namespace TaskQuery

/-- A task. -/
structure Task where
  /-- The path of the file that holds the task. -/
  path : String
  /-- The whole line, with keyword and tags. -/
  rawText : String := ""
  /-- The line without keyword and markers. -/
  text : String := ""
  /-- The state keyword. -/
  state : String := ""
  /-- The priority as it is spelled, if there is one. -/
  priority : Option String := none
  /-- When the task is to be taken up. -/
  scheduled : Option Stamp := none
  /-- When the task is to be done. -/
  deadline : Option Stamp := none
  /-- Whether the task is done. -/
  completed : Bool := false
  /-- The number of lines before the task in its file. -/
  line : Int := 0
  deriving DecidableEq

namespace Task

/-- A character that a tag may hold. -/
def isTagChar (c : Char) : Bool := Text.isWord c || c = '/' || c = '-'

/-- The tags of a text, without their signs.  A sign opens a tag when a tag character follows it
and neither a word character nor another sign stands before it (`blocked`). -/
def tagsFrom : (blocked : Bool) → List Char → List (List Char)
  | _, [] => []
  | blocked, c :: cs =>
    let run := cs.takeWhile isTagChar
    let later := tagsFrom (Text.isWord c || c = '#') cs
    if c = '#' && !blocked && !run.isEmpty then run :: later else later

/-- The tags on the line, in order and with repetitions. -/
def tags (t : Task) : List (List Char) := tagsFrom false t.rawText.toList

/-- The last component of the path that is neither empty nor a single dot; empty without one. -/
def fileName (t : Task) : List Char :=
  (((Text.splitOn ['/'] t.path.toList).filter fun c => c ≠ [] && c ≠ ['.']).getLast?).getD []

end Task

end TaskQuery
