import TaskQuery.Calendar.Week
import TaskQuery.Command.Arguments
import TaskQuery.Text.Blank
import TaskQuery.Text.Casing
import TaskQuery.Text.Digit

/-!
# Requests

What a command line asks for.  A command line that is not understood asks for nothing, and the
request says why it is refused.  Whether a folder is in the place of a file is not known here: the
paths that have to be looked at are part of the request.
-/

namespace TaskQuery.Command

/-! ## Values of options -/

/-- A digit from one to nine. -/
def digitFromOne? (c : Char) : Option Nat :=
  if '1' ≤ c && c ≤ '9' then some (c.toNat - '0'.toNat) else none

/-- The month at the front of a day, in one or two digits, and the rest. -/
def monthOfDay? : List Char → Option (Nat × List Char)
  | '1' :: '0' :: cs => some (10, cs)
  | '1' :: '1' :: cs => some (11, cs)
  | '1' :: '2' :: cs => some (12, cs)
  | '0' :: c :: cs => (digitFromOne? c).map (·, cs)
  | c :: cs => (digitFromOne? c).map (·, cs)
  | [] => none

/-- The day of the month at the end of a day, in one or two digits or after a blank. -/
def dayOfMonth? : List Char → Option Nat
  | [c] => digitFromOne? c
  | ['3', '0'] => some 30
  | ['3', '1'] => some 31
  | [tens, c] =>
    if tens = '0' || tens = ' ' then digitFromOne? c
    else if tens = '1' || tens = '2' then
      (Text.digitValue? c).map fun d => 10 * (tens.toNat - '0'.toNat) + d
    else none
  | _ => none

/-- A day as an option gives it: four digits, a month and a day of it, with dashes between. -/
def day? (s : List Char) : Option Date := do
  let year ← if s.length < 4 then none else Text.readDigits? 0 (s.take 4)
  match s.drop 4 with
  | '-' :: cs =>
    match ← monthOfDay? cs with
    | (month, '-' :: rest) => Date.ofParts? year month (← dayOfMonth? rest)
    | _ => none
  | _ => none

/-- Digits, in groups with an underscore between neighbours. -/
def groupedDigits? (s : List Char) : Option Nat :=
  if (Text.splitOn ['_'] s).any List.isEmpty then none
  else Text.wholeNumber? (s.filter (· ≠ '_'))

/-- A blank that may stand around a number: unlike elsewhere, no information separator. -/
def isBlankAround (c : Char) : Bool := Text.isBlank c && !('\x1c' ≤ c && c ≤ '\x1f')

/-- A number of results: digits, perhaps with a sign and blanks around; it is not negative. -/
def count? (s : List Char) : Option Nat :=
  match Text.strip isBlankAround s with
  | '+' :: cs => groupedDigits? cs
  | '-' :: cs => (groupedDigits? cs).filter (· = 0)
  | cs => groupedDigits? cs

/-- The name of a week start in any letter case. -/
def weekStart? (s : String) : Option WeekStart :=
  [WeekStart.monday, WeekStart.sunday].find? fun w =>
    let name := w.name.toList
    name.length == s.length &&
      (name.zip s.toList).all fun (c, d) => Text.equalsIgnoringCase c d

/-- How results are written. -/
inductive Format where
  /-- As a table. -/
  | table
  /-- As the places of the tasks, one a line. -/
  | paths
  /-- As a list of task records. -/
  | json
  deriving DecidableEq, Repr

/-- The name of a format. -/
def Format.name : Format → String
  | table => "table"
  | paths => "paths"
  | json => "json"

/-- The format with the given name. -/
def Format.ofName? (s : String) : Option Format := [table, paths, json].find? (·.name == s)

/-- The refusal of a value that is not understood. -/
def unlessUnderstood {β : Type} (value : Option β) : Option Refusal :=
  if value.isSome then none else some .misused

/-- The refusal of a path that holds a NUL. -/
def nulRefusal? (path : String) : Option Refusal :=
  if PathName.hasNul path then some (.badPath .nul) else none

/-! ## The program -/

/-- The options of the program. -/
inductive ProgramOption where
  /-- The configuration file. -/
  | config
  /-- No colours. -/
  | noColor
  /-- More messages. -/
  | verbose
  /-- All messages. -/
  | debug
  /-- Only errors. -/
  | quiet
  /-- Show tables page by page. -/
  | pager
  /-- Show tables at once. -/
  | noPager
  /-- Show the version. -/
  | version
  /-- Show the help. -/
  | help
  deriving DecidableEq, Repr

/-- The names of the options of the program. -/
def programOptions : List (OptionName ProgramOption) := [
  ⟨"--config", .config, true⟩, ⟨"-c", .config, true⟩, ⟨"--no-color", .noColor, false⟩,
  ⟨"--verbose", .verbose, false⟩, ⟨"-v", .verbose, false⟩, ⟨"--debug", .debug, false⟩,
  ⟨"--quiet", .quiet, false⟩, ⟨"-q", .quiet, false⟩, ⟨"--pager", .pager, false⟩,
  ⟨"--no-pager", .noPager, false⟩, ⟨"--version", .version, false⟩, ⟨"--help", .help, false⟩]

/-- The commands. -/
inductive CommandName where
  /-- Search tasks. -/
  | search
  /-- Check a query. -/
  | check
  /-- Write a configuration file. -/
  | initConfig
  /-- Show the help of a command. -/
  | help
  deriving DecidableEq, Repr

/-- Every command. -/
def CommandName.all : List CommandName := [search, check, initConfig, help]

/-- The name by which a command is called. -/
def CommandName.text : CommandName → String
  | search => "search"
  | check => "check"
  | initConfig => "init-config"
  | help => "help"

/-- The command with the given name. -/
def CommandName.ofText? (s : String) : Option CommandName := all.find? (·.text == s)

/-- What a command line asks the program for before a command is run. -/
structure ProgramRequest where
  /-- The configuration file. -/
  config : Option String
  /-- Whether to say more. -/
  verbose : Bool
  /-- Whether to say nothing but errors. -/
  quiet : Bool
  /-- The command and its arguments. -/
  command : Option (String × List String)

/-- What a command line asks for. -/
inductive ProgramLine where
  /-- Nothing. -/
  | refused (why : Refusal)
  /-- The help. -/
  | help
  /-- The version. -/
  | version
  /-- To run a command. -/
  | run (request : ProgramRequest)

/-- What a command line asks for. -/
def ProgramLine.read (args : List String) : ProgramLine :=
  if args.isEmpty then refused .misused
  else
    match Arguments.parse programOptions false args with
    | .error why => refused why
    | .ok a =>
      match a.first? .help .version with
      | some true => help
      | some false => version
      | none => run {
          config := a.value? .config
          verbose := a.has .verbose || a.has .debug
          quiet := a.has .quiet
          command := a.operands.head?.map (·, a.operands.tail) }

/-! ## The commands -/

/-- What the arguments of a command ask for. -/
inductive CommandLine (α : Type) where
  /-- Nothing. -/
  | refused (why : Refusal)
  /-- The help of the command. -/
  | help
  /-- To run the command. -/
  | run (request : α)

/-- The options of a search. -/
inductive SearchOption where
  /-- The task export. -/
  | tasks
  /-- The format of the results. -/
  | format
  /-- Letter case counts. -/
  | caseSensitive
  /-- Letter case does not count. -/
  | ignoreCase
  /-- The day treated as today. -/
  | today
  /-- The first day of the week. -/
  | weekStart
  /-- A filter that cannot be applied is an error. -/
  | strict
  /-- The greatest number of results. -/
  | limit
  /-- The column to sort by. -/
  | sort
  /-- Show the help. -/
  | help
  deriving DecidableEq, Repr

/-- The names of the options of a search. -/
def searchOptions : List (OptionName SearchOption) := [
  ⟨"--tasks", .tasks, true⟩, ⟨"-t", .tasks, true⟩, ⟨"--format", .format, true⟩,
  ⟨"-f", .format, true⟩, ⟨"--case-sensitive", .caseSensitive, false⟩,
  ⟨"--ignore-case", .ignoreCase, false⟩, ⟨"--today", .today, true⟩,
  ⟨"--week-start", .weekStart, true⟩, ⟨"--strict", .strict, false⟩, ⟨"--limit", .limit, true⟩,
  ⟨"-l", .limit, true⟩, ⟨"--sort", .sort, true⟩, ⟨"-s", .sort, true⟩, ⟨"--help", .help, false⟩]

/-- What a search is asked for. -/
structure SearchRequest where
  /-- The query. -/
  query : String
  /-- The task export. -/
  tasks : Option String
  /-- How results are written. -/
  format : Format
  /-- Whether letter case counts. -/
  caseSensitive : Option Bool
  /-- The day treated as today. -/
  today : Option Date
  /-- The first day of the week. -/
  weekStart : Option WeekStart
  /-- Whether a filter that cannot be applied is an error. -/
  strict : Bool
  /-- The greatest number of results. -/
  limit : Option Nat
  /-- The column to sort by, with dashes in front to sort descending. -/
  sort : Option String

/-- Words as one query; there has to be one. -/
def queryOf? (words : List String) : Option String :=
  if words.isEmpty then none else some (" ".intercalate words)

/-- Why the value of an option of a search is refused. -/
def SearchOption.refusal? : SearchOption → String → Option Refusal
  | tasks, s => nulRefusal? s
  | format, s => unlessUnderstood (Format.ofName? s)
  | today, s => unlessUnderstood (day? s.toList)
  | weekStart, s => unlessUnderstood (weekStart? s)
  | limit, s => unlessUnderstood (count? s.toList)
  | _, _ => none

/-- What a search for a query is asked for. -/
def searchRequest (a : Arguments SearchOption) (query : String) : SearchRequest where
  query := query
  tasks := a.value? .tasks
  format := ((a.value? .format).bind Format.ofName?).getD .table
  caseSensitive := a.choice? .caseSensitive .ignoreCase
  today := (a.value? .today).bind fun s => day? s.toList
  weekStart := (a.value? .weekStart).bind weekStart?
  strict := a.has .strict
  limit := (a.value? .limit).bind fun s => count? s.toList
  sort := a.value? .sort

/-- The arguments of a search. -/
def CommandLine.ofSearch (args : List String) : CommandLine SearchRequest :=
  match Arguments.parse searchOptions true args with
  | .error why => refused why
  | .ok a =>
    if a.has .help then help
    else
      match a.refusal? SearchOption.refusal?, queryOf? a.operands with
      | some why, _ => refused why
      | none, none => refused .misused
      | none, some query => run (searchRequest a query)

/-- The options of a check. -/
inductive CheckOption where
  /-- Show the tokens. -/
  | tokens
  /-- Show the query as a tree. -/
  | tree
  /-- Show the help. -/
  | help
  deriving DecidableEq, Repr

/-- The names of the options of a check. -/
def checkOptions : List (OptionName CheckOption) := [
  ⟨"--tokens", .tokens, false⟩, ⟨"--ast", .tree, false⟩, ⟨"--help", .help, false⟩]

/-- What a check is asked for. -/
structure CheckRequest where
  /-- The query. -/
  query : String
  /-- Whether to show the tokens. -/
  tokens : Bool
  /-- Whether to show the query as a tree. -/
  tree : Bool

/-- The arguments of a check. -/
def CommandLine.ofCheck (args : List String) : CommandLine CheckRequest :=
  match Arguments.parse checkOptions true args with
  | .error why => refused why
  | .ok a =>
    if a.has .help then help
    else
      match queryOf? a.operands with
      | some query => run { query, tokens := a.has .tokens, tree := a.has .tree }
      | none => refused .misused

/-- The options of writing a configuration file. -/
inductive InitOption where
  /-- Replace a file that is there. -/
  | force
  /-- The file to write. -/
  | output
  /-- The task export to name in it. -/
  | tasksFile
  /-- Show the help. -/
  | help
  deriving DecidableEq, Repr

/-- The names of the options of writing a configuration file. -/
def initOptions : List (OptionName InitOption) := [
  ⟨"--force", .force, false⟩, ⟨"-f", .force, false⟩, ⟨"--output", .output, true⟩,
  ⟨"-o", .output, true⟩, ⟨"--tasks-file", .tasksFile, true⟩, ⟨"--help", .help, false⟩]

/-- What writing a configuration file is asked for. -/
structure InitRequest where
  /-- Whether to replace a file that is there. -/
  force : Bool
  /-- The file to write. -/
  output : Option String
  /-- The task export to name in it. -/
  tasksFile : Option String
  /-- The paths of both in the order in which they are first given. -/
  paths : List String
  /-- Whether more is given than the command takes. -/
  hasMore : Bool

/-- An option whose value is a path. -/
def InitOption.isPath : InitOption → Bool
  | output | tasksFile => true
  | force | help => false

/-- The arguments of writing a configuration file. -/
def CommandLine.ofInit (args : List String) : CommandLine InitRequest :=
  match Arguments.parse initOptions true args with
  | .error why => refused why
  | .ok a =>
    if a.has .help then help
    else run { force := a.has .force, output := a.value? .output
               tasksFile := a.value? .tasksFile
               paths := (a.options.filter (·.1.isPath)).filterMap fun (o, _) => a.value? o
               hasMore := !a.operands.isEmpty }

/-- The options of showing help. -/
inductive HelpOption where
  /-- Show the help. -/
  | help
  deriving DecidableEq, Repr

/-- The arguments of showing help: the names of commands. -/
def CommandLine.ofHelp (args : List String) : CommandLine (List String) :=
  match Arguments.parse [⟨"--help", HelpOption.help, false⟩] true args with
  | .error why => refused why
  | .ok a => if a.has .help then help else run a.operands

end TaskQuery.Command
