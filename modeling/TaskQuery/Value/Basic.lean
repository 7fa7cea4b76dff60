import TaskQuery.Calendar.Date
import TaskQuery.Number.Binary64

/-!
# Data values

The values that task files, property bags and configuration files hold.  An object keeps its
entries in the order in which their keys first appeared.
-/

namespace TaskQuery

/-- A value of a data file. -/
inductive Value where
  /-- The absent value. -/
  | null
  /-- A truth value. -/
  | bool (b : Bool)
  /-- A whole number of any size. -/
  | int (n : Int)
  /-- A floating-point number. -/
  | float (x : Binary64)
  /-- A text. -/
  | text (s : String)
  /-- A day, or an instant. -/
  | stamp (s : Stamp)
  /-- A time of day on no particular day. -/
  | time (t : TimeOfDay)
  /-- A list of values. -/
  | list (vs : List Value)
  /-- Named values. -/
  | object (entries : List (String × Value))

/-- How deep lists and objects may be nested where nothing else is known: what is left of a usual
stack when a value is read or written. -/
def Value.usualNesting : Nat := 950

/-- Named values in the order in which their names first appeared. -/
abbrev Entries := List (String × Value)

namespace Entries

/-- The value with a name. -/
def get? (entries : Entries) (key : String) : Option Value := entries.lookup key

/-- Give a name a value, in the place of the name if it is there already, else at the end. -/
def put {κ : Type} [DecidableEq κ] (entries : List (κ × Value)) (key : κ) (value : Value) :
    List (κ × Value) :=
  match entries with
  | [] => [(key, value)]
  | (k, v) :: rest => if k = key then (k, value) :: rest else (k, v) :: put rest key value

/-- Entries from pairs in order, where a later pair replaces the value of an earlier one. -/
def ofPairs {κ : Type} [DecidableEq κ] (pairs : List (κ × Value)) : List (κ × Value) :=
  pairs.foldl (fun entries (k, v) => put entries k v) []

end Entries

namespace Value

/-- The name of a value's type. -/
def typeName : Value → String
  | null => "NoneType"
  | bool _ => "bool"
  | int _ => "int"
  | float _ => "float"
  | text _ => "str"
  | stamp s => if s.time.isSome then "datetime" else "date"
  | time _ => "time"
  | list _ => "list"
  | object _ => "dict"

/-- Whether a value counts as true: all do but the absent value, false, zero and what is empty. -/
def isTruthy : Value → Bool
  | null => false
  | bool b => b
  | int n => n ≠ 0
  | float (.finite _ m _) => m ≠ 0
  | float _ => true
  | text s => s ≠ ""
  | stamp _ | time _ => true
  | list vs => !vs.isEmpty
  | object entries => !entries.isEmpty

end Value

end TaskQuery
