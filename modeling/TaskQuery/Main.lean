import Std.Time.Zoned
import TaskQuery.Command.Run

/-!
# The command line program

The outermost layer: it finds out what surrounds the run, lets the files of the machine answer
what the run asks for, and writes what it says.
-/

namespace TaskQuery.Main

/-- What is under a path of the machine. -/
def stateOf (path : String) : IO FileState := do
  try
    return .file (← IO.FS.readBinFile path)
  catch
    | .noFileOrDirectory .. => return .missing
    | e@(.invalidArgument ..) => return .tooLong (toString e)
    | e =>
      try
        let _ ← IO.FS.realPath path
        return .folder (toString e)
      catch _ => return .barred (toString e)

/-- Write a file of the machine and the folders above it. -/
def save (path : PathName) (content : String) : IO (Option String) := do
  try
    IO.FS.createDirAll path.parent.text
    IO.FS.writeFile path.text content
    return none
  catch e => return some (toString e)

/-- Run a computation on the files of the machine. -/
def perform {α : Type} : Access α → IO α
  | .done result => return result
  | .look path next => do perform (next (← stateOf path.text))
  | .write path content next => do perform (next (← save path content))

/-- The current day. -/
def today : IO Date := do
  let day ← Std.Time.PlainDate.now
  match Date.ofParts? day.year.toInt.toNat day.month.val.toNat day.day.val.toNat with
  | some d => return d
  | none => throw (IO.userError "the current day is outside the calendar")

/-- What surrounds a run on the machine.  A line has eighty cells unless the terminal says
otherwise. -/
def surroundings : IO Command.Surroundings := do
  let current := toString (← IO.currentDir)
  let home := (← IO.getEnv "HOME").getD current
  let columns := (← IO.getEnv "COLUMNS").bind fun s => Text.wholeNumber? s.toList
  return {
    width := columns.getD 80
    folders := ⟨.ofText home, .ofText current⟩
    today := ← today }

/-- The status that the program ends with. -/
def statusOf : Command.Ending → UInt32
  | .status code => code.toUInt32
  | .broken _ => 1

end TaskQuery.Main

/-- Run the program with the arguments of the command line. -/
def main (args : List String) : IO UInt32 := do
  let report ← TaskQuery.Main.perform (TaskQuery.Command.run (← TaskQuery.Main.surroundings) args)
  (← IO.getStdout).putStr (String.ofList report.output.out)
  (← IO.getStderr).putStr (String.ofList report.output.err)
  return TaskQuery.Main.statusOf report.ending
