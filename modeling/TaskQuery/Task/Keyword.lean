import TaskQuery.Text.Blank
import TaskQuery.Text.Casing

/-!
# State keywords

A task's state is a keyword such as `TODO`.  The keywords fall into five groups, each with words
of its own to which a configuration may add; a search for a group finds every keyword in it.
-/

namespace TaskQuery

/-- The groups of state keywords. -/
inductive KeywordGroup where
  /-- Work that is going on. -/
  | active
  /-- Work not started. -/
  | inactive
  /-- Work that waits for something. -/
  | waiting
  /-- Work that is done or given up. -/
  | completed
  /-- Work put away. -/
  | archived
  deriving DecidableEq, Repr

namespace KeywordGroup

/-- Every group, in the order in which keywords are looked up. -/
def all : List KeywordGroup := [active, inactive, waiting, completed, archived]

/-- The name of a group. -/
def name : KeywordGroup → String
  | active => "active"
  | inactive => "inactive"
  | waiting => "waiting"
  | completed => "completed"
  | archived => "archived"

/-- The group with the given name. -/
def ofName? (s : String) : Option KeywordGroup := all.find? (·.name == s)

/-- The keywords that a group has from the start. -/
def builtin : KeywordGroup → List String
  | active => ["DOING", "NOW", "IN-PROGRESS"]
  | inactive => ["TODO", "LATER"]
  | waiting => ["WAIT", "WAITING"]
  | completed => ["DONE", "CANCELLED", "CANCELED"]
  | archived => ["ARCHIVED"]

end KeywordGroup

/-- The elements of a list without the later repetitions. -/
def firstOccurrences {α : Type} [BEq α] : List α → List α
  | [] => []
  | a :: as => a :: (firstOccurrences as).filter (! · == a)

/-- A keyword as it is compared: in upper case, without blanks at its ends. -/
def keywordForm (word : String) : String :=
  String.ofList (Text.upper (Text.trim word.toList))

/-- The keywords that words stand for, without blank ones and repetitions. -/
def keywordForms (words : List String) : List String :=
  firstOccurrences ((words.map keywordForm).filter (· ≠ ""))

/-- The keywords of each group. -/
structure Keywords where
  /-- The keywords of a group, the builtin ones first. -/
  wordsOf : KeywordGroup → List String

namespace Keywords

/-- The builtin keywords. -/
def builtin : Keywords := ⟨KeywordGroup.builtin⟩

/-- The builtin keywords with further words for some groups. -/
def ofAdditional (extra : KeywordGroup → List String) : Keywords :=
  ⟨fun g => keywordForms (g.builtin ++ extra g)⟩

/-- The keywords of the group with the given name in any letter case; none for another name. -/
def keywordsIn (k : Keywords) (name : String) : List String :=
  match KeywordGroup.ofName? (Text.lowerString name) with
  | some g => k.wordsOf g
  | none => []

/-- The first group that holds a word in any letter case. -/
def groupOf? (k : Keywords) (word : String) : Option KeywordGroup :=
  KeywordGroup.all.find? fun g => (k.wordsOf g).contains (Text.upperString word)

/-- The keywords of all groups, group by group. -/
def all (k : Keywords) : List String := keywordForms (KeywordGroup.all.flatMap k.wordsOf)

end Keywords

end TaskQuery
