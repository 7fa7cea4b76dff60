import TaskQuery.Config.Basic
import TaskQuery.Terminal.Lines

/-!
# Output of commands

Results go to the output and what is said about them to the error output.  A command ends with a
status: zero for success, one for an error, two for a command line or a task export that cannot
be used.  Some failures it has no message for; it then breaks off.
-/

namespace TaskQuery.Command

open Terminal

/-- What was written. -/
structure Output where
  /-- What was written to the output. -/
  out : List Char := []
  /-- What was written to the error output. -/
  err : List Char := []

/-- One output after another. -/
def Output.append (a b : Output) : Output := ⟨a.out ++ b.out, a.err ++ b.err⟩

/-- Output behind output. -/
instance : Append Output := ⟨Output.append⟩

/-- Why a command breaks off: the failures that it has no message for. -/
inductive Breakdown where
  /-- A day that is needed lies outside the calendar. -/
  | calendar (error : CalendarError)
  /-- The task export is not UTF-8. -/
  | notUtf8
  /-- A whole number has more digits than are read or written. -/
  | hugeNumber
  /-- Lists and objects are nested deeper than there is room for. -/
  | tooDeep
  /-- Tasks cannot be put in order. -/
  | incomparable
  /-- The configuration has an error without a message. -/
  | config (error : ConfigError)
  /-- A path leads nowhere. -/
  | path (error : PathError)
  /-- A label closes a style that is not open. -/
  | unbalanced
  deriving DecidableEq, Repr

/-- A command breaks off for a value that has no text. -/
def Breakdown.ofWriteFault : WriteFault → Breakdown
  | .hugeNumber => .hugeNumber
  | .tooDeep => .tooDeep

/-- How a command ends. -/
inductive Ending where
  /-- With a status. -/
  | status (code : Nat)
  /-- It breaks off. -/
  | broken (cause : Breakdown)
  deriving DecidableEq, Repr

/-- What a command has written, and how it ended. -/
structure Report where
  /-- How it ended. -/
  ending : Ending := .status 0
  /-- What was written. -/
  output : Output := {}

/-- A report with something written before it. -/
def Report.after (earlier : Output) (r : Report) : Report := { r with output := earlier ++ r.output }

/-- The report of a command that breaks off. -/
def breaking (cause : Breakdown) : Report := { ending := .broken cause }

namespace Output

/-- Markup on the output. -/
def print (width : Nat) (markup : List Char) : Output := { out := paragraph width markup }

/-- Markup on the error output. -/
def complain (width : Nat) (markup : List Char) : Output := { err := paragraph width markup }

/-- Information. -/
def info (width : Nat) (message : List Char) : Output := print width (styled "info" message)

/-- News of a success. -/
def success (width : Nat) (message : List Char) : Output := print width (styled "success" message)

/-- A warning. -/
def warning (width : Nat) (message : String) : Output :=
  complain width (styled "warning" "Warning:".toList ++ ' ' :: escape message.toList)

/-- An error. -/
def error (width : Nat) (message : String) : Output :=
  complain width (styled "error" "Error:".toList ++ ' ' :: escape message.toList)

/-- A hint below an error. -/
def hint (width : Nat) (message : String) : Output :=
  complain width
    (' ' :: ' ' :: styled "info" "Hint:".toList ++ ' ' :: escape message.toList)

/-- A text, and a caret under the character at a position. -/
def caret (width : Nat) (text : List Char) (position : Nat) : Output :=
  complain width (' ' :: ' ' :: escape text) ++
    complain width (' ' :: ' ' :: List.replicate (min position text.length) ' ' ++
      styled "query.caret" ['^'])

/-- A character between the two given ones. -/
def isBetween (first last c : Char) : Bool := first ≤ c && c ≤ last

/-- What follows the parameters of a control sequence. -/
def afterParameters (s : List Char) : List Char :=
  (s.dropWhile (isBetween '0' '?')).dropWhile (isBetween ' ' '/')

/-- The rest of a text after the control sequence at its front: the escape character and an
opening bracket, parameters, and the character that says what is to be done. -/
def afterControl? : List Char → Option (List Char)
  | '\x1b' :: '[' :: cs =>
    match afterParameters cs with
    | c :: rest => if isBetween '@' '~' c then some rest else none
    | [] => none
  | _ => none

/-- What follows the parameters of a control sequence is no longer than the text. -/
theorem length_afterParameters (s : List Char) : (afterParameters s).length ≤ s.length :=
  Nat.le_trans (List.dropWhile_suffix _).length_le (List.dropWhile_suffix _).length_le

/-- A control sequence takes characters away, so that removing them ends. -/
theorem length_of_afterControl? {s rest : List Char} (h : afterControl? s = some rest) :
    rest.length < s.length := by
  unfold afterControl? at h
  split at h
  · next cs =>
    split at h
    · next c r hd =>
      split at h
      · obtain rfl := by simpa using h
        have := length_afterParameters cs
        rw [hd] at this
        simp only [List.length_cons] at this ⊢
        omega
      · simp at h
    · simp at h
  · simp at h

/-- A text without control sequences. -/
def withoutControls (s : List Char) : List Char :=
  match s with
  | [] => []
  | c :: cs =>
    match _h : afterControl? (c :: cs) with
    | some rest => withoutControls rest
    | none => c :: withoutControls cs
termination_by s.length
decreasing_by
  · exact length_of_afterControl? _h
  · exact Nat.lt_succ_self _

/-- A line for other programs: neither broken nor coloured. -/
def line (s : List Char) : Output := { out := withoutControls s ++ ['\n'] }

end Output

end TaskQuery.Command
