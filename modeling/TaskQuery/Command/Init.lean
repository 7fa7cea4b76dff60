import TaskQuery.Command.Request
import TaskQuery.Command.Session
import TaskQuery.Config.Starter

/-!
# Writing a configuration file

A starter configuration is written where there is none, or over one when that is asked for.
-/

namespace TaskQuery.Command

/-- What is said of a written configuration file. -/
def written (s : Session) (path : PathName) (tasksFile : Option PathName) : Output :=
  let advice := "Set paths.tasks_file to your task export to search without --tasks."
  .success s.width ("Created config file: ".toList ++ path.text.toList) ++
    (if tasksFile.isNone then s.unlessQuiet (.info s.width advice.toList) else {})

/-- Write a starter configuration under an absolute path. -/
def writeStarter (s : Session) (path : PathName) (tasksFile : Option PathName) : Access Report :=
  .write path (Starter.text tasksFile) fun refusal =>
    .done (match refusal with
      | some reason => s.failure 1 ("Failed to write config file: " ++ reason)
      | none => { output := written s path tasksFile })

/-- The absolute path of a task export that is asked for. -/
def resolveTasks (s : Session) : Option String → Except PathError (Option PathName)
  | none => .ok none
  | some text => (s.folders.resolve (.ofText text)).map some

/-- Write a starter configuration unless there is a file that is to be kept. -/
def initConfig (s : Session) (r : InitRequest) : Access Report :=
  let output := (r.output.map PathName.ofText).getD (Config.defaultPath s.folders.home)
  match s.folders.resolve output with
  | .error e => .done (breaking (.path e))
  | .ok path => .look path fun state =>
      match state.isThere, resolveTasks s r.tasksFile with
      | .error e, _ => .done (breaking (.path e))
      | .ok isThere, tasksFile =>
        if isThere && !r.force then
          .done (s.failureWithHint 1 ("Config file already exists: " ++ path.text)
            "Use --force to overwrite")
        else
          match tasksFile with
          | .error e => .done (breaking (.path e))
          | .ok tasksFile => writeStarter s path tasksFile

end TaskQuery.Command
