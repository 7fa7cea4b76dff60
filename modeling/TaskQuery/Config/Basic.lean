import TaskQuery.Files.PathName
import TaskQuery.Match.Settings
import TaskQuery.Toml.Writer

/-!
# Configuration

What a user can set once for all searches: the task export to search, the letter case mode, the
first day of the week, strictness, colours, and further words for the keyword groups and the
priorities.

A configuration is written as a document of up to five sections.  What says nothing is left out:
a missing path, an empty list of words, and a section without lists.
-/

namespace TaskQuery

/-- Lists of words by name, in order. -/
abbrev WordLists := List (String × List String)

/-- A configuration. -/
structure Config where
  /-- The task export to search when none is named. -/
  tasksFile : Option PathName := none
  /-- Whether letter case counts in free text. -/
  caseSensitive : Bool := false
  /-- The name of the first day of the week. -/
  weekStartsOn : String := "monday"
  /-- Whether a filter that cannot be applied is an error. -/
  strict : Bool := false
  /-- Whether output is coloured. -/
  coloredOutput : Bool := true
  /-- Further keywords by the name of their group. -/
  keywords : WordLists := []
  /-- Further spellings by the name of their priority. -/
  priority : WordLists := []
  /-- The file that the configuration was read from. -/
  source : Option PathName := none
  deriving DecidableEq, Repr

namespace Config

/-- The path of the configuration of the owner of a home folder. -/
def defaultPath (home : PathName) : PathName :=
  home.append [".config", "todo-search", "config.toml"]

/-- The keywords of each group under the configuration. -/
def allKeywords (c : Config) : Keywords :=
  .ofAdditional fun g => (c.keywords.lookup g.name).getD []

/-- The spellings of each priority under the configuration. -/
def allSpellings (c : Config) : Spellings := .ofAdditional c.priority

/-- The settings for a search on a reference day; none where the week start has no meaning. -/
def settings? (c : Config) (referenceDay : Option Date) : Option Settings :=
  (WeekStart.ofName? c.weekStartsOn).map fun weekStart =>
    { keywords := c.allKeywords, spellings := c.allSpellings, weekStart, referenceDay
      strict := c.strict }

end Config

/-- What is worth telling about a configuration that can be used. -/
inductive ConfigWarning where
  /-- There is no configuration file. -/
  | noFile (path : PathName)
  /-- The task export is not there. -/
  | noTasksFile (path : PathName)
  /-- A keyword of a group is a builtin keyword of another one. -/
  | builtinElsewhere (group word : String) (owner : KeywordGroup)
  deriving DecidableEq, Repr

/-- The warning in words. -/
def ConfigWarning.message : ConfigWarning → String
  | noFile path => "No config file found at " ++ path.text ++
      ". Using defaults. Create one with: todo-search init-config"
  | noTasksFile path => "Tasks file not found: " ++ path.text
  | builtinElsewhere group word owner => "keywords." ++ group ++ ": '" ++ word ++
      "' is already a builtin " ++ owner.name ++ " keyword"

/-- Why a value of a configuration is refused. -/
inductive ConfigFault where
  /-- It should be a text. -/
  | notAPath
  /-- It should be a truth value. -/
  | notABoolean
  /-- It should be a text. -/
  | notAString
  /-- It should be the name of a week start. -/
  | notAWeekStart
  /-- Its name should be one of those given. -/
  | unknownName (allowed : List String)
  /-- It should be a list of texts. -/
  | notAWordList
  deriving DecidableEq, Repr

/-- The fault in words. -/
def ConfigFault.message : ConfigFault → String
  | notAPath => "must be a string path"
  | notABoolean => "must be a boolean"
  | notAString => "must be a string"
  | notAWeekStart => "must be 'monday' or 'sunday'"
  | unknownName allowed => "must be one of: " ++ ", ".intercalate allowed
  | notAWordList => "must be a list of strings"

/-- Why there is no configuration. -/
inductive ConfigError where
  /-- A value is refused; the key is that of its section and its own. -/
  | invalid (key : String) (fault : ConfigFault)
  /-- The file cannot be read or is no TOML. -/
  | unreadable (path : PathName) (detail : String)
  /-- A number in the file is too long to be read. -/
  | hugeNumber
  /-- A section of settings is no table and yet seems to hold an entry. -/
  | noTable (name : String)
  /-- A section of word lists is no table. -/
  | noWordTable (name : String)
  /-- The path of the configuration or of the task export leads nowhere. -/
  | badPath (error : PathError)
  deriving DecidableEq, Repr

/-- The error in words. -/
def ConfigError.message : ConfigError → String
  | invalid key fault => "Invalid config value for '" ++ key ++ "': " ++ fault.message
  | unreadable path detail => "Invalid config at " ++ path.text ++ ": " ++ detail
  | hugeNumber => "number too long in config"
  | noTable name | noWordTable name => "config section '" ++ name ++ "' is not a table"
  | badPath .foreignHome => "unknown home folder in config path"
  | badPath .nul => "NUL in config path"
  | badPath .tooLong => "config path too long"

namespace Config

/-! ### Writing -/

/-- A list of texts as a value. -/
def wordsValue (words : List String) : Value := .list (words.map .text)

/-- The section of word lists; none when no list has words. -/
def wordSection (name : String) (lists : WordLists) : Entries :=
  match lists.filter fun (_, words) => !words.isEmpty with
  | [] => []
  | lists => [(name, .object (lists.map fun (key, words) => (key, wordsValue words)))]

/-- The section of paths; none without a path. -/
def pathSection (c : Config) : Entries :=
  match c.tasksFile with
  | none => []
  | some p => [("paths", .object [("tasks_file", .text p.text)])]

/-- The document that describes a configuration. -/
def document (c : Config) : Entries :=
  [("search", .object [
      ("case_sensitive", .bool c.caseSensitive),
      ("week_starts_on", .text c.weekStartsOn),
      ("strict", .bool c.strict)]),
    ("display", .object [("colored_output", .bool c.coloredOutput)])] ++
    c.pathSection ++ wordSection "keywords" c.keywords ++ wordSection "priority" c.priority

/-- The text of a configuration file. -/
def fileText (c : Config) : String := Toml.write c.document

end Config

end TaskQuery
