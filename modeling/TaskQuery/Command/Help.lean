import TaskQuery.Command.Output
import TaskQuery.Command.Request

/-!
# Help

The help of the program and of each command, and what is said of a command line that is refused:
most are answered with the first line of the help.
-/

namespace TaskQuery.Command

/-- The name and version of the program. -/
def versionLine : String := "todo-search, version 0.3.0"

/-- How the program is called. -/
def programUsage : String := "Usage: todo-search [OPTIONS] COMMAND [ARGS]..."

/-- How a command is called. -/
def CommandName.usage : CommandName → String
  | search => "Usage: todo-search search [OPTIONS] QUERY..."
  | check => "Usage: todo-search check [OPTIONS] QUERY..."
  | initConfig => "Usage: todo-search init-config [OPTIONS]"
  | help => "Usage: todo-search help [OPTIONS] [COMMAND]..."

/-- The help of the program. -/
def programHelp : List String := [
  programUsage,
  "",
  "  todo-search: Filter exported tasks with a boolean query language.",
  "",
  "Options:",
  "  -c, --config FILE       Path to config file",
  "  --no-color              Disable colored output",
  "  -v, --verbose           Enable verbose output",
  "  --debug                 Log parser and evaluator decisions to stderr",
  "  -q, --quiet             Suppress non-error output",
  "  --pager / --no-pager    Force pager on/off for table output",
  "  --version               Show the version and exit.",
  "  --help                  Show this message and exit.",
  "",
  "Commands:",
  "  check        Check a search query for syntax errors.",
  "  help         Show help for a command.",
  "  init-config  Create a configuration file listing every option with...",
  "  search       Filter tasks with a boolean, field-aware query."]

/-- The help of a command. -/
def CommandName.helpText : CommandName → List String
  | search => [
    usage search,
    "",
    "  Filter tasks with a boolean, field-aware query.",
    "",
    "Options:",
    "  -t, --tasks PATH                  JSON task export to search",
    "  -f, --format [table|paths|json]   Output format",
    "  --case-sensitive / --ignore-case  Match free text case-sensitively",
    "  --today YYYY-MM-DD                Day to evaluate relative dates by",
    "  --week-start [monday|sunday]      First day of the week",
    "  --strict                          Fail on unknown fields and bad dates",
    "  -l, --limit INTEGER               Limit number of results",
    "  -s, --sort TEXT                   Sort by column name",
    "  --help                            Show this message and exit."]
  | check => [
    usage check,
    "",
    "  Check a search query for syntax errors.",
    "",
    "Options:",
    "  --tokens  Show the token list",
    "  --ast     Show the parsed query as a tree",
    "  --help    Show this message and exit."]
  | initConfig => [
    usage initConfig,
    "",
    "  Create a configuration file listing every option with its default.",
    "",
    "Options:",
    "  -f, --force        Overwrite an existing file",
    "  -o, --output FILE  Where to write the file",
    "  --tasks-file FILE  Set paths.tasks_file to this JSON task export",
    "  --help             Show this message and exit."]
  | help => [
    usage help,
    "",
    "  Show help for a command.",
    "",
    "Options:",
    "  --help  Show this message and exit."]

/-- Lines on the output. -/
def Output.lines (ls : List String) : Output :=
  { out := Terminal.ofLines (ls.map String.toList) }

/-- The end after showing help. -/
def showing (help : List String) : Report := { output := .lines help }

/-- The end of a command line for which a line is written to the error output. -/
def complaining (line : String) : Report :=
  { ending := .status 2, output := { err := line.toList ++ ['\n'] } }

/-- The end of a command line that is refused. -/
def refusing (usage : String) : Refusal → Report
  | .misused => complaining usage
  | .noValue name => complaining ("Error: Option '" ++ name ++ "' requires an argument.")
  | .unwantedValue name => complaining ("Error: Option '" ++ name ++ "' does not take a value.")
  | .badPath e => breaking (.path e)

end TaskQuery.Command
