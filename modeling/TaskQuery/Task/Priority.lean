import TaskQuery.Text.Blank
import TaskQuery.Text.Casing

/-!
# Priorities

A priority has one of three levels.  Each level has several spellings, to which a configuration
may add; a spelling belongs to the first level that lists it.
-/

namespace TaskQuery

/-- The levels of priority. -/
inductive Priority where
  /-- The highest level. -/
  | high
  /-- The middle level. -/
  | med
  /-- The lowest level. -/
  | low
  deriving DecidableEq, Repr

namespace Priority

/-- Every level, in the order in which spellings are looked up. -/
def all : List Priority := [high, med, low]

/-- The name of a level. -/
def name : Priority → String
  | high => "high"
  | med => "med"
  | low => "low"

/-- The level with the given name. -/
def ofName? (s : String) : Option Priority := all.find? (·.name == s)

/-- The place of a level from the top. -/
def rank : Priority → Nat
  | high => 0
  | med => 1
  | low => 2

/-- The spellings that a level has from the start. -/
def builtin : Priority → List String
  | high => ["high", "a"]
  | med => ["med", "medium", "b"]
  | low => ["low", "c"]

/-- A spelling as it is compared: in lower case, without blanks at its ends. -/
def form (spelling : String) : String :=
  String.ofList (Text.lower (Text.trim spelling.toList))

end Priority

/-- The spellings of each level of priority. -/
structure Spellings where
  /-- The spellings of a level. -/
  of : Priority → List String

namespace Spellings

/-- The builtin spellings. -/
def builtin : Spellings := ⟨Priority.builtin⟩

/-- The builtin spellings with further ones under the names of levels, in any letter case; blank
ones and those under other names are passed over. -/
def ofAdditional (extra : List (String × List String)) : Spellings :=
  ⟨fun p => p.builtin ++
    (extra.filter fun (name, _) => Text.lowerString name = p.name).flatMap fun (_, words) =>
      (words.map Priority.form).filter (· ≠ "")⟩

/-- The level that lists a spelling. -/
def level? (s : Spellings) (form : String) : Option Priority :=
  Priority.all.find? fun p => (s.of p).contains form

/-- The name of the level that a spelling has, or the spelling as it is compared when it has none;
none when there is nothing to compare. -/
def normalize (s : Spellings) (value : Option String) : Option String := do
  let form := Priority.form (← value)
  if form = "" then none
  else
    match s.level? form with
    | some p => some p.name
    | none => some form

end Spellings

end TaskQuery
