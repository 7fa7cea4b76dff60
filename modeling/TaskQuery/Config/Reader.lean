import TaskQuery.Config.Basic
import TaskQuery.Files.Access
import TaskQuery.Text.Span
import TaskQuery.Toml.Reader

/-!
# Reading configurations

A configuration is a TOML document.  Its sections are read in a fixed order and the first value of
the wrong kind is an error.  What the document says is then checked against the world: paths
become absolute, and what looks like a mistake becomes a warning.
-/

namespace TaskQuery.Config

/-- The entry of a section that is expected to be a table.  Anything else has no entries; it is an
error to ask a text for a part of it, a list for an element of it, or a value that has neither. -/
def entry? (name : String) (v : Value) (key : String) : Except ConfigError (Option Value) :=
  match v with
  | .object entries => .ok (Entries.get? entries key)
  | .text s => if Text.contains key.toList s.toList then .error (.noTable name) else .ok none
  | .list vs =>
    if vs.any fun v => match v with
      | .text s => s = key
      | _ => false
    then .error (.noTable name) else .ok none
  | _ => .error (.noTable name)

/-- A section of the document; a missing one is empty. -/
def sectionOf (document : Entries) (name : String) : Value :=
  (Entries.get? document name).getD (.object [])

/-- A setting that is a truth value. -/
def readFlag (document : Entries) (name key : String) (default : Bool) :
    Except ConfigError Bool := do
  match ← entry? name (sectionOf document name) key with
  | none => return default
  | some (.bool b) => return b
  | some _ => .error (.invalid (name ++ "." ++ key) .notABoolean)

/-- The path of the task export. -/
def readTasksFile (document : Entries) : Except ConfigError (Option PathName) := do
  match ← entry? "paths" (sectionOf document "paths") "tasks_file" with
  | none => return none
  | some (.text s) => return some (.ofText s)
  | some _ => .error (.invalid "paths.tasks_file" .notAPath)

/-- The name of the first day of the week, in lower case. -/
def readWeekStart (document : Entries) (default : String) : Except ConfigError String := do
  match ← entry? "search" (sectionOf document "search") "week_starts_on" with
  | none => return default
  | some (.text s) => return Text.lowerString s
  | some _ => .error (.invalid "search.week_starts_on" .notAString)

/-- A list of texts. -/
def readWords : List Value → Option (List String)
  | [] => some []
  | .text s :: rest => (readWords rest).map (s :: ·)
  | _ => none

/-- Lists of words under some of the allowed names. -/
def readWordTable (name : String) (allowed : List String) :
    Entries → Except ConfigError WordLists
  | [] => .ok []
  | (key, v) :: rest => do
    if key ∉ allowed then .error (.invalid (name ++ "." ++ key) (.unknownName allowed))
    let words ← match v with
      | .list vs => match readWords vs with
        | some words => .ok words
        | none => .error (.invalid (name ++ "." ++ key) .notAWordList)
      | _ => .error (.invalid (name ++ "." ++ key) .notAWordList)
    return (key, words) :: (← readWordTable name allowed rest)

/-- The lists of words of a section. -/
def readWordLists (document : Entries) (name : String) (allowed : List String) :
    Except ConfigError WordLists :=
  match sectionOf document name with
  | .object entries => readWordTable name allowed entries
  | _ => .error (.noWordTable name)

/-- The names of the keyword groups. -/
def groupNames : List String := KeywordGroup.all.map KeywordGroup.name

/-- The names of the priorities. -/
def priorityNames : List String := Priority.all.map Priority.name

/-- The configuration that a document describes. -/
def ofDocument (document : Entries) (source : Option PathName) : Except ConfigError Config := do
  let standard : Config := {}
  let tasksFile ← readTasksFile document
  let caseSensitive ← readFlag document "search" "case_sensitive" standard.caseSensitive
  let weekStartsOn ← readWeekStart document standard.weekStartsOn
  let strict ← readFlag document "search" "strict" standard.strict
  let coloredOutput ← readFlag document "display" "colored_output" standard.coloredOutput
  let keywords ← readWordLists document "keywords" groupNames
  let priority ← readWordLists document "priority" priorityNames
  return { tasksFile, caseSensitive, weekStartsOn, strict, coloredOutput, keywords, priority
           source }

/-- The keywords that are builtin keywords of another group. -/
def conflicts (c : Config) : List ConfigWarning :=
  c.keywords.flatMap fun (group, words) =>
    words.filterMap fun word =>
      match Keywords.builtin.groupOf? word with
      | some owner => if owner.name = group then none else some (.builtinElsewhere group word owner)
      | none => none

/-- The week start of a configuration has to be one. -/
def checkWeekStart (c : Config) : Except ConfigError Unit :=
  if (WeekStart.ofName? c.weekStartsOn).isSome then .ok ()
  else .error (.invalid "search.week_starts_on" .notAWeekStart)

/-- The folders that paths refer to. -/
structure Folders where
  /-- The home of the user. -/
  home : PathName
  /-- Where relative paths start. -/
  current : PathName

/-- A path as an absolute one. -/
def Folders.resolve (f : Folders) (p : PathName) : Except PathError PathName := do
  PathName.absolute f.current (← PathName.expandHome f.home p)

/-- The configuration with an absolute path of the task export. -/
def resolve (c : Config) (f : Folders) : Except PathError Config :=
  match c.tasksFile with
  | none => .ok c
  | some p => do return { c with tasksFile := some (← f.resolve p) }

/-- A configuration whose paths are absolute, with what is worth telling about it. -/
def checked (c : Config) (tasksFileIsThere : Bool) :
    Except ConfigError (Config × List ConfigWarning) := do
  c.checkWeekStart
  let missing := match c.tasksFile with
    | some p => if tasksFileIsThere then [] else [ConfigWarning.noTasksFile p]
    | none => []
  return (c, missing ++ c.conflicts)

/-- Make the paths of a configuration absolute and check it. -/
def validate (c : Config) (f : Folders) :
    Access (Except ConfigError (Config × List ConfigWarning)) :=
  match c.resolve f with
  | .error e => .done (.error (.badPath e))
  | .ok c =>
    match c.tasksFile with
    | none => .done (c.checked true)
    | some p => .look p fun state =>
        .done (match state.isThere with
          | .error e => .error (.badPath e)
          | .ok isThere => c.checked isThere)

/-- What is said of a file that is not UTF-8. -/
def notUtf8 : String := "not UTF-8"

/-- What is said of a file that is not TOML. -/
def notToml : String := "not a TOML document"

/-- The configuration in a file. -/
def ofBytes (path : PathName) (content : ByteArray) : Except ConfigError Config :=
  match String.fromUTF8? content with
  | none => .error (.unreadable path notUtf8)
  | some text =>
    match Toml.read text.toList with
    | .error .malformed => .error (.unreadable path notToml)
    | .error .hugeNumber => .error .hugeNumber
    | .ok document => ofDocument document (some path)

/-- Load the configuration under an absolute path; without a file there it is the standard one. -/
def loadResolved (path : PathName) (f : Folders) :
    Access (Except ConfigError (Config × List ConfigWarning)) :=
  .look path fun state =>
    match state with
    | .file content =>
      match ofBytes path content with
      | .error e => .done (.error e)
      | .ok c => c.validate f
    | .tooLong _ => .done (.error (.badPath .tooLong))
    | _ => .done (.ok ({}, [.noFile path]))

/-- Load a configuration; without a path it is the one of the user. -/
def load (path : Option PathName) (f : Folders) :
    Access (Except ConfigError (Config × List ConfigWarning)) :=
  match f.resolve (path.getD (defaultPath f.home)) with
  | .error e => .done (.error (.badPath e))
  | .ok path => loadResolved path f

end TaskQuery.Config
