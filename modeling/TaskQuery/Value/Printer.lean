import TaskQuery.Number.Shortest
import TaskQuery.Text.Blank
import TaskQuery.Text.Printable
import TaskQuery.Value.Basic

/-!
# Values as text

How a value reads when it is searched as text or quoted in a message.  A text reads as itself on
its own and in quotes inside a list or an object.  Not every value has a text: whole numbers have a
greatest length, and there is room only for so many levels of lists and objects.
-/

namespace TaskQuery

namespace TimeOfDay

/-- The parts of a time as arguments, seconds only when there are any. -/
def arguments (t : TimeOfDay) : List (List Char) :=
  [Text.decimal t.hour, Text.decimal t.minute] ++
    (if t.second = 0 then [] else [Text.decimal t.second])

end TimeOfDay

namespace Stamp

/-- The parts of a stamp as arguments. -/
def arguments (s : Stamp) : List (List Char) :=
  [Text.decimal s.date.year, Text.decimal s.date.month, Text.decimal s.date.day] ++
    (match s.time with
      | none => []
      | some t => t.arguments)

end Stamp

/-- Why a value has no text. -/
inductive WriteFault where
  /-- A whole number has more digits than are written. -/
  | hugeNumber
  /-- A value stands deeper inside lists and objects than there is room for. -/
  | tooDeep
  deriving DecidableEq, Repr

/-- The fault in words. -/
def WriteFault.message : WriteFault → String
  | hugeNumber => "number too long"
  | tooDeep => "nested too deep"

namespace Value

/-- A constructor applied to arguments. -/
def call (name : String) (arguments : List (List Char)) : List Char :=
  name.toList ++ '(' :: Text.join ", ".toList arguments ++ [')']

mutual

/-- A value inside a list, an object or a message, where it takes one of the levels left. -/
def quoted : (levels : Nat) → Value → Except WriteFault (List Char)
  | 0, _ => .error .tooDeep
  | _ + 1, null => .ok "None".toList
  | _ + 1, bool b => .ok (if b then "True" else "False").toList
  | _ + 1, int n => if Text.isWritable n then .ok (Text.signedDecimal n) else .error .hugeNumber
  | _ + 1, float x => .ok x.text
  | _ + 1, text s => .ok (Text.quotedText s.toList)
  | _ + 1, stamp s =>
    .ok (call (if s.time.isSome then "datetime.datetime" else "datetime.date") s.arguments)
  | _ + 1, time t => .ok (call "datetime.time" t.arguments)
  | levels + 1, list vs => do
    return '[' :: Text.join ", ".toList (← quotedList levels vs) ++ [']']
  | levels + 1, object entries => do
    return '\x7b' :: Text.join ", ".toList (← quotedEntries levels entries) ++ ['\x7d']

/-- Each value of a list. -/
def quotedList (levels : Nat) : List Value → Except WriteFault (List (List Char))
  | [] => .ok []
  | v :: vs => do return (← quoted levels v) :: (← quotedList levels vs)

/-- Each entry of an object. -/
def quotedEntries (levels : Nat) : List (String × Value) → Except WriteFault (List (List Char))
  | [] => .ok []
  | (k, v) :: rest => do
    return (Text.quotedText k.toList ++ ':' :: ' ' :: (← quoted levels v)) ::
      (← quotedEntries levels rest)

end

/-- A value as it is searched, where values may stand `nesting` deep inside of it. -/
def toText (nesting : Nat) : Value → Except WriteFault (List Char)
  | text s => .ok s.toList
  | stamp s => .ok (s.textWith ' ')
  | time t => .ok t.text
  | v => quoted (nesting + 1) v

end Value

end TaskQuery
