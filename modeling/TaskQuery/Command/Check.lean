import TaskQuery.Command.Request
import TaskQuery.Command.Session
import TaskQuery.Query.Parser
import TaskQuery.Query.Printer
import TaskQuery.Terminal.Table
import TaskQuery.Terminal.Tree
import TaskQuery.Text.Printable

/-!
# Checking a query

A check shows how a query is read: its tokens, its tree, and its compact form; or where it goes
wrong.  The two ends of a range are put into a label one by one, and what they make together may
be a closing tag; such a tree cannot be shown.
-/

namespace TaskQuery.Command

open Terminal

/-- The columns of a table of tokens. -/
def tokenColumns : List TableColumn := [
  { title := "#", alignsRight := true }, { title := "Type" }, { title := "Value" },
  { title := "Source" }, { title := "Pos", alignsRight := true }]

/-- The row of a token. -/
def tokenRow (index : Nat) (t : Token) : List (List Char) := [
  Text.decimal index, t.kind.name.toList, plain (escape t.value.toList),
  plain (escape t.lexeme.toList), Text.decimal t.position]

/-- The table of tokens. -/
def tokenTable (tokens : List Token) : Table where
  columns := tokenColumns
  rows := tokens.zipIdx.map fun (t, i) => tokenRow i t

/-- A mark behind an exact value. -/
def exactMark (exact : Bool) : List Char :=
  if exact then ' ' :: styled "dim" "(exact)".toList else []

/-- A name in a label. -/
def labelName (name : String) : List Char :=
  bracketed "token.type".toList ++ name.toList ++ bracketed "/token.type".toList

/-- The label of a leaf. -/
def leafLabel : Leaf → List Char
  | .term value => labelName "term" ++ ' ' :: escape (Text.quotedText value.toList)
  | .phrase value => labelName "phrase" ++ ' ' :: escape (Text.quotedText value.toList)
  | .field name value exact =>
    labelName name ++ ':' :: ' ' :: escape value.toList ++ exactMark exact
  | .property text exact =>
    labelName "property" ++ ' ' :: escape (bracketed text.toList) ++ exactMark exact
  | .range name start stop _ _ =>
    labelName name ++ ':' :: ' ' :: escape start.toList ++ " .. ".toList ++ escape stop.toList

/-- The label of an operator. -/
def operatorLabel (name : String) : List Char := styled "bold" name.toList

mutual

/-- The tree of a query. -/
def treeOf : Query → Tree
  | .leaf test _ => .node (leafLabel test) []
  | .and qs _ => .node (operatorLabel "AND") (treesOf qs)
  | .or qs _ => .node (operatorLabel "OR") (treesOf qs)
  | .not q _ => .node (operatorLabel "NOT") [treeOf q]

/-- The tree of each query. -/
def treesOf : List Query → List Tree
  | [] => []
  | q :: qs => treeOf q :: treesOf qs

end

/-- What is said of a query. -/
def verdict (s : Session) (r : CheckRequest) : Except SyntaxError Query → Report
  | .error e => (s.failure 1 e.fault.message).after (.caret s.width r.query.toList e.position)
  | .ok q =>
    let t := treeOf q
    if r.tree && !t.isBalanced then breaking .unbalanced
    else
      let tree : Output := if r.tree then { out := t.draw s.width } else {}
      let news := s.unlessQuiet (.success s.width "Query is valid".toList)
      { output := tree ++ news ++ .line q.sexpr.toList }

/-- Run a check. -/
def check (s : Session) (r : CheckRequest) : Report :=
  let tokens : Output := if r.tokens then
    { out := (tokenTable (Token.scan r.query)).draw s.width } else {}
  (verdict s r (Query.parse r.query)).after tokens

end TaskQuery.Command
