import TaskQuery.Files.PathName
import TaskQuery.Json.Writer

/-!
# The starter configuration

A new configuration file lists every option with its default, one of them commented out: the path
of the task export, which is filled in when it is known.
-/

namespace TaskQuery.Starter

/-- The line for the path of the task export while it is not known. -/
def tasksFileLine : String := "# tasks_file = \"~/notes/.tasks.json\""

/-- The lines before that line. -/
def head : List String := [
  "# todo-search configuration",
  "# Location: ~/.config/todo-search/config.toml",
  "",
  "[paths]",
  "# JSON task export searched when --tasks is not given"]

/-- The lines after that line. -/
def tail : List String := [
  "",
  "[search]",
  "# Match free text case-sensitively",
  "case_sensitive = false",
  "",
  "# First day of the week for \"this week\" / \"next week\": \"monday\" or \"sunday\"",
  "week_starts_on = \"monday\"",
  "",
  "# Fail on unknown fields and unparseable dates instead of treating",
  "# the filter as a non-match",
  "strict = false",
  "",
  "[display]",
  "colored_output = true",
  "",
  "# Extra state keywords, added to the builtin ones.",
  "# state:<group> matches every keyword in the group.",
  "[keywords]",
  "active = []      # builtin: DOING, NOW, IN-PROGRESS",
  "inactive = []    # builtin: TODO, LATER",
  "waiting = []     # builtin: WAIT, WAITING",
  "completed = []   # builtin: DONE, CANCELLED, CANCELED",
  "archived = []    # builtin: ARCHIVED",
  "",
  "# Extra spellings accepted by priority:<value>",
  "[priority]",
  "high = []        # builtin: high, a",
  "med = []         # builtin: med, medium, b",
  "low = []         # builtin: low, c"]

/-- The line that sets the path of the task export, quoted as in JSON. -/
def tasksFileSetting (path : String) : String :=
  "tasks_file = " ++ String.ofList (Json.quote path.toList)

/-- The text of a new configuration file. -/
def text (tasksFile : Option PathName) : String :=
  let line := match tasksFile with
    | none => tasksFileLine
    | some p => tasksFileSetting p.text
  String.join ((head ++ line :: tail).map (· ++ "\n"))

end TaskQuery.Starter
