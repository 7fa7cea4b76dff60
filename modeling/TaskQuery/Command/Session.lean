import TaskQuery.Command.Output
import TaskQuery.Config.Reader

/-!
# Sessions

What every command is run with: the terminal, the folders, the current day, the configuration,
and how much is to be said.
-/

namespace TaskQuery.Command

/-- What surrounds a run of the program. -/
structure Surroundings where
  /-- The number of cells in a line of the terminal. -/
  width : Nat
  /-- The folders that paths refer to. -/
  folders : Config.Folders
  /-- The current day. -/
  today : Date
  /-- How deep lists and objects may be nested. -/
  nesting : Nat := Value.usualNesting

/-- What a command is run with. -/
structure Session extends Surroundings where
  /-- The configuration. -/
  config : Config
  /-- Whether to say more. -/
  verbose : Bool
  /-- Whether to say nothing but errors. -/
  quiet : Bool

namespace Session

/-- Something to be said unless the session is quiet. -/
def unlessQuiet (s : Session) (o : Output) : Output := if s.quiet then {} else o

/-- Something to be said when the session is verbose. -/
def whenVerbose (s : Session) (o : Output) : Output := if s.verbose then o else {}

/-- An end with an error. -/
def failure (s : Session) (status : Nat) (message : String) : Report :=
  { ending := .status status, output := .error s.width message }

/-- An end with an error and a hint. -/
def failureWithHint (s : Session) (status : Nat) (message hint : String) : Report :=
  { ending := .status status, output := .error s.width message ++ .hint s.width hint }

end Session

end TaskQuery.Command
