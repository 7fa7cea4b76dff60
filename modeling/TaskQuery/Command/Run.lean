import TaskQuery.Command.Check
import TaskQuery.Command.Help
import TaskQuery.Command.Init
import TaskQuery.Command.Search

/-!
# Running the program

A command line is taken apart; the configuration is loaded, with a warning for whatever is odd
about it; and the command is run.  The name of the command is looked at before the configuration
is loaded, its arguments after that.
-/

namespace TaskQuery.Command

/-- Why a path that is given for a file is refused: a folder is in its place, or it holds a NUL.
An empty one names nothing. -/
def fileRefusal (path : String) : Access (Option Refusal) :=
  match nulRefusal? path with
  | some why => .done (some why)
  | none =>
    if path = "" then .done none
    else .look (.ofText path) fun state =>
      .done (if state.isFolder then some .misused else none)

/-- Why the first path that is refused is refused. -/
def firstRefusal : List String → Access (Option Refusal)
  | [] => .done none
  | path :: paths => do
    match ← fileRefusal path with
    | some why => return some why
    | none => firstRefusal paths

/-- What arguments of a command ask for, done. -/
def follow {α : Type} (name : CommandName) (line : CommandLine α) (act : α → Access Report) :
    Access Report :=
  match line with
  | .refused why => .done (refusing name.usage why)
  | .help => .done (showing name.helpText)
  | .run request => act request

/-- Show the help of the named command; only the program itself has commands. -/
def showHelp (s : Session) : List String → Report
  | [] => showing programHelp
  | name :: rest =>
    match CommandName.ofText? name, rest with
    | none, _ => s.failure 1 ("Unknown command: " ++ name)
    | some _, other :: _ => s.failure 1 ("Unknown command: " ++ other)
    | some c, [] => showing c.helpText

/-- Write a configuration file, unless a path is refused or more is given than two paths. -/
def initUnlessRefused (s : Session) (r : InitRequest) : Access Report := do
  match ← firstRefusal r.paths with
  | some why => return refusing CommandName.initConfig.usage why
  | none =>
    if r.hasMore then return refusing CommandName.initConfig.usage .misused else initConfig s r

/-- Run a command with its arguments. -/
def runCommand (s : Session) (name : CommandName) (args : List String) : Access Report :=
  match name with
  | .search => follow name (.ofSearch args) (search s)
  | .check => follow name (.ofCheck args) fun r => .done (check s r)
  | .initConfig => follow name (.ofInit args) (initUnlessRefused s)
  | .help => follow name (.ofHelp args) fun names => .done (showHelp s names)

/-- The end when there is no configuration. -/
def configFailure (width : Nat) : ConfigError → Report
  | .invalid key fault => failed (ConfigError.invalid key fault)
  | .unreadable path detail => failed (ConfigError.unreadable path detail)
  | e => breaking (.config e)
where
  /-- The end with a message and a hint. -/
  failed (e : ConfigError) : Report :=
    { ending := .status 1
      output := .error width e.message ++
        .hint width "Fix the file or regenerate it with: todo-search init-config --force" }

/-- The warnings of a configuration. -/
def warningsOf (width : Nat) (warnings : List ConfigWarning) : Output :=
  warnings.foldl (fun o w => o ++ .warning width w.message) {}

/-- Load the configuration and run a command. -/
def runConfigured (around : Surroundings) (r : ProgramRequest) (name : CommandName)
    (args : List String) : Access Report := do
  match ← Config.load (r.config.map .ofText) around.folders with
  | .error e => return configFailure around.width e
  | .ok (config, warnings) =>
    let session : Session := { around with config, verbose := r.verbose, quiet := r.quiet }
    let report ← runCommand session name args
    return report.after (session.unlessQuiet (warningsOf around.width warnings))

/-- The end when there is no command of the given name.  A name that two dashes keep from being
an option is still understood when it asks for the help or the version. -/
def unknownCommand (name : String) (args : List String) : Access Report :=
  match ProgramLine.read (name :: args) with
  | .refused why => .done (refusing programUsage why)
  | .help => .done (showing programHelp)
  | .version => .done (showing [versionLine])
  | .run request => do
    let why ← firstRefusal request.config.toList
    return refusing programUsage (why.getD .misused)

/-- Run the program. -/
def run (around : Surroundings) (args : List String) : Access Report :=
  match ProgramLine.read args with
  | .refused why => .done (refusing programUsage why)
  | .help => .done (showing programHelp)
  | .version => .done (showing [versionLine])
  | .run request => do
    match ← firstRefusal request.config.toList, request.command with
    | some why, _ => return refusing programUsage why
    | none, none => return refusing programUsage .misused
    | none, some (name, args) =>
      match CommandName.ofText? name with
      | none => unknownCommand name args
      | some command => runConfigured around request command args

end TaskQuery.Command
