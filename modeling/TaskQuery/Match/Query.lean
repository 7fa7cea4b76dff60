import TaskQuery.Match.Field
import TaskQuery.Match.FreeText
import TaskQuery.Match.Property
import TaskQuery.Query.Parser

/-!
# Matching a task with a query

The operands of a conjunction are tried from left to right until one does not match, those of a
disjunction until one does.  A filter that cannot be applied is an error in strict mode and no
match otherwise; the other errors, of the calendar and of texts, are errors in both modes.
-/

namespace TaskQuery

namespace Scope

/-- Whether the task passes a test, all errors kept. -/
def test (s : Scope) : Leaf → Except MatchError Bool
  | .term value => .ok (s.hasTerm value)
  | .phrase value => .ok (s.hasPhrase value)
  | .field name value exact => s.matchesField name value exact
  | .property text exact => s.matchesProperty text exact
  | .range name start stop startExact stopExact =>
    s.matchesRange name start stop startExact stopExact

/-- A filter that cannot be applied does not match, unless `strict`. -/
def lenient (strict : Bool) : Except MatchError Bool → Except MatchError Bool
  | .error (.filter fault) => if strict then .error (.filter fault) else .ok false
  | r => r

/-- Whether the task passes a leaf of a query. -/
def matchesLeaf (s : Scope) (l : Leaf) : Except MatchError Bool :=
  lenient s.settings.strict (s.test l)

mutual

/-- Whether the task matches a query. -/
def evaluate (s : Scope) : Query → Except MatchError Bool
  | .leaf l _ => s.matchesLeaf l
  | .and [] _ => .error .emptyAnd
  | .and (q :: qs) _ => s.evaluateAll (q :: qs)
  | .or [] _ => .error .emptyOr
  | .or (q :: qs) _ => s.evaluateAny (q :: qs)
  | .not q _ => do return !(← s.evaluate q)

/-- Whether the task matches all queries, tried until one does not match. -/
def evaluateAll (s : Scope) : List Query → Except MatchError Bool
  | [] => .ok true
  | q :: qs => do if ← s.evaluate q then s.evaluateAll qs else return false

/-- Whether the task matches one of the queries, tried until one does. -/
def evaluateAny (s : Scope) : List Query → Except MatchError Bool
  | [] => .ok false
  | q :: qs => do if ← s.evaluate q then return true else s.evaluateAny qs

end

end Scope

/-- Whether the task matches a query text; a text that is no query matches nothing. -/
def Scope.matchesText (s : Scope) (text : String) : Except MatchError Bool :=
  match Query.parse text with
  | .ok q => s.evaluate q
  | .error _ => .ok false

/-- The scope of a task among properties kept by path. -/
def Task.scope (t : Task) (caseSensitive : Bool) (settings : Settings)
    (propertiesOf : String → Entries) (clock : Date) : Scope :=
  { task := t, caseSensitive, settings, properties := propertiesOf t.path, clock }

/-- The tasks that match a query, in order. -/
def Query.filter (q : Query) (caseSensitive : Bool) (settings : Settings)
    (propertiesOf : String → Entries) (clock : Date) :
    List Task → Except MatchError (List Task)
  | [] => .ok []
  | t :: ts => do
    let matched ← (t.scope caseSensitive settings propertiesOf clock).evaluate q
    let rest ← q.filter caseSensitive settings propertiesOf clock ts
    return if matched then t :: rest else rest

end TaskQuery
