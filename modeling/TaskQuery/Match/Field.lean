import TaskQuery.DateFilter.Reader
import TaskQuery.Match.Settings

/-!
# Field filters

What `field:value` asks of a task, field by field.  A value that was quoted is exact: a text field
then has to equal it instead of holding it, and a date field reads it as quoted.  An empty value
matches nothing.
-/

namespace TaskQuery

/-- The fields of a task that can be searched. -/
inductive Field where
  /-- The path of the file. -/
  | path
  /-- The name of the file. -/
  | file
  /-- The tags. -/
  | tag
  /-- The state keyword, or a group of keywords. -/
  | state
  /-- The priority. -/
  | priority
  /-- The text. -/
  | content
  /-- The scheduled date. -/
  | scheduled
  /-- The deadline. -/
  | deadline
  deriving DecidableEq, Repr

/-- The field with the given name. -/
def Field.ofName? : String → Option Field
  | "path" => some path
  | "file" => some file
  | "tag" => some tag
  | "state" => some state
  | "priority" => some priority
  | "content" => some content
  | "scheduled" => some scheduled
  | "deadline" => some deadline
  | _ => none

/-- A file name without its last extension. -/
def stem (name : List Char) : List Char :=
  match Text.cut? ['.'] name.reverse with
  | some (_, front) => front.reverse
  | none => name

namespace Scope

/-- The path begins with the folders of the value, or, unless exact, holds them somewhere among
its folders. -/
def matchesPath (s : Scope) (value : List Char) (exact : Bool) : Bool :=
  let wanted := s.fold (Text.strip (· = '/') value)
  let path := s.fold s.task.path.toList
  if s.task.path = "" || wanted = [] then false
  else if path = wanted || (wanted ++ ['/']).isPrefixOf path then true
  else
    !exact && Text.contains (Text.splitOn ['/'] wanted) (Text.splitOn ['/'] path).dropLast

/-- The file name, or the name without its extension when exact, is the value; else it holds it. -/
def matchesFile (s : Scope) (value : List Char) (exact : Bool) : Bool :=
  let wanted := s.fold value
  let name := s.fold s.task.fileName
  if s.task.fileName = [] then false
  else if exact then wanted = name || wanted = stem name
  else Text.contains wanted name

/-- A tag is the value, or holds it when not exact; signs in front of the value are passed over. -/
def matchesTag (s : Scope) (value : List Char) (exact : Bool) : Bool :=
  let wanted := s.fold (value.dropWhile (· = '#'))
  let tags := s.task.tags.map s.fold
  if wanted = [] then false
  else if exact then tags.contains wanted
  else tags.any (Text.contains wanted)

/-- The text is the value, blanks at its ends apart, or holds it when not exact. -/
def matchesContent (s : Scope) (value : List Char) (exact : Bool) : Bool :=
  let text := s.task.text.toList
  if text = [] then false
  else if exact then s.fold (Text.trim text) = s.fold value
  else Text.contains (s.fold value) (s.fold text)

/-- The state is in the group with the given name.  A task that is done is in the completed group
whatever its state. -/
def inGroup (s : Scope) (group : KeywordGroup) : Bool :=
  (group = .completed && s.task.completed) ||
    (s.settings.keywords.wordsOf group).contains (Text.upperString s.task.state)

/-- The state is the value, or, unless exact, is in the group that the value names. -/
def matchesState (s : Scope) (value : List Char) (exact : Bool) : Bool :=
  s.fold s.task.state.toList = s.fold value ||
    (!exact && (KeywordGroup.ofName? (String.ofList (Text.lower value))).any s.inGroup)

/-- The priority has the same level or spelling as the value; `none` asks for no priority. -/
def matchesPriority (s : Scope) (value : String) : Bool :=
  if Priority.form value = "none" then s.task.priority.all (· = "")
  else
    let actual := s.settings.spellings.normalize s.task.priority
    actual.isSome && actual = s.settings.spellings.normalize (some value)

/-- A value as the text of a date filter: in double quotes when exact. -/
def dateText (value : String) (exact : Bool) : String :=
  String.ofList (DateFilter.requote exact value.toList)

/-- The filter that a date value writes. -/
def readDate? (s : Scope) (value : String) (exact : Bool) : Option DateFilter :=
  DateFilter.read? (dateText value exact) s.today s.settings.weekStart

/-- A date of the task satisfies the value. -/
def matchesDate (s : Scope) (value : String) (exact : Bool) (date : Option Stamp) :
    Except MatchError Bool :=
  match s.readDate? value exact with
  | none => .error (.filter (.notADate value))
  | some f => MatchError.ofCalendar (f.accepts (date.map Stamp.date) s.today s.settings.weekStart)

/-- Whether the task satisfies `name:value`. -/
def matchesField (s : Scope) (name value : String) (exact : Bool) : Except MatchError Bool :=
  match Field.ofName? name with
  | none => .error (.filter (.unknownField name))
  | some field =>
    if value = "" then .ok false
    else
      match field with
      | .path => .ok (s.matchesPath value.toList exact)
      | .file => .ok (s.matchesFile value.toList exact)
      | .tag => .ok (s.matchesTag value.toList exact)
      | .content => .ok (s.matchesContent value.toList exact)
      | .state => .ok (s.matchesState value.toList exact)
      | .priority => .ok (s.matchesPriority value)
      | .scheduled => s.matchesDate value exact s.task.scheduled
      | .deadline => s.matchesDate value exact s.task.deadline

/-- The days that an end of a range stands for. -/
def bound (s : Scope) (value : String) (exact : Bool) : Except MatchError DateRange :=
  match s.readDate? value exact with
  | some (.period p) => .ok p.range
  | some (.range r) => .ok r
  | some (.bucket .today) => MatchError.ofCalendar do return (← Period.ofDate .day s.today).range
  | some (.bucket .tomorrow) => MatchError.ofCalendar do
    let d ← s.today.addDays 1
    return (← Period.ofDate .day d).range
  | _ => .error (.filter (.notABound value))

/-- Whether the task satisfies `name:start..stop`. -/
def matchesRange (s : Scope) (name start stop : String) (startExact stopExact : Bool) :
    Except MatchError Bool := do
  let date ← match Field.ofName? name with
    | some .scheduled => pure s.task.scheduled
    | some .deadline => pure s.task.deadline
    | _ => .error (.filter (.notADateField name))
  let first ← s.bound start startExact
  let last ← s.bound stop stopExact
  return date.any fun d => (⟨first.start, last.stop⟩ : DateRange).contains d.date

end Scope

end TaskQuery
