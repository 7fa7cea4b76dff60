import TaskQuery.Match.Settings

/-!
# Free text

A term or phrase is looked for in the line, the text, the path and the file name of a task.  A
term may occur anywhere.  A phrase has to occur as a whole: where it begins or ends with a word
character, no word character may stand next to it.
-/

namespace TaskQuery

/-- The texts of a task in which free text is looked for. -/
def Task.searchable (t : Task) : List (List Char) :=
  [t.rawText.toList, t.text.toList, t.path.toList, t.fileName].filter (· ≠ [])

namespace FreeText

/-- The text after `phrase` when it stands at the front, its characters compared by `same`. -/
def strip? (same : Char → Char → Bool) : (phrase : List Char) → List Char → Option (List Char)
  | [], s => some s
  | _ :: _, [] => none
  | p :: ps, c :: cs => if same p c then strip? same ps cs else none

/-- A text starts with a word character. -/
def startsWithWord (s : List Char) : Bool := s.head?.any Text.isWord

/-- A text ends with a word character, a final line feed apart. -/
def endsWithWord (s : List Char) : Bool :=
  s.getLast?.any Text.isWord || (s.getLast? = some '\n' && s.dropLast.getLast?.any Text.isWord)

/-- Whether `phrase` stands as a whole at the front of a text, which stands after a word
character or not. -/
def standsAtFront (same : Char → Char → Bool) (phrase : List Char) (afterWord : Bool)
    (s : List Char) : Bool :=
  !(startsWithWord phrase && afterWord) &&
    (strip? same phrase s).any fun rest => !(endsWithWord phrase && startsWithWord rest)

/-- Whether `phrase` occurs as a whole in a text, which stands after a word character or not. -/
def occurs (same : Char → Char → Bool) (phrase : List Char) : (afterWord : Bool) →
    List Char → Bool
  | afterWord, [] => standsAtFront same phrase afterWord []
  | afterWord, c :: cs =>
    standsAtFront same phrase afterWord (c :: cs) || occurs same phrase (Text.isWord c) cs

end FreeText

namespace Scope

/-- Whether a term occurs in the task. -/
def hasTerm (s : Scope) (value : String) : Bool :=
  value ≠ "" && s.task.searchable.any fun text =>
    Text.contains (s.fold value.toList) (s.fold text)

/-- Equality of a character of a phrase with one of the task. -/
def sameChar (s : Scope) (p c : Char) : Bool :=
  if s.caseSensitive then p == c else Text.equalsIgnoringCase p c

/-- Whether a phrase occurs in the task. -/
def hasPhrase (s : Scope) (value : String) : Bool :=
  value ≠ "" && s.task.searchable.any fun text =>
    FreeText.occurs s.sameChar value.toList false text

end Scope

end TaskQuery
