import TaskQuery.Proofs.Token.Brackets
import TaskQuery.Query.Basic

/-!
# Writing queries

A query is written with as few parentheses as the binding of the operators allows.

* `Query.written` writes a query.  Where the language leaves a choice, a `Spelling` makes it for
  every node: whether `AND` stands between two operands of a conjunction or nothing, and which part
  of an exact property is in quotes.
* `Query.IsNormal` says which queries can be written so that they are read back.
* `Query.bare` forgets the positions.
-/

namespace TaskQuery

/-- How a node is written where there is a choice. -/
structure Choice where
  /-- Whether `AND` stands in front of the node, among the operands of a conjunction. -/
  explicit : Bool
  /-- Whether the key of an exact property is in quotes; without a value it always is. -/
  quoteKey : Bool
  /-- Whether the value of an exact property is in quotes; when the key is not, it always is. -/
  quoteValue : Bool
  deriving DecidableEq, Repr

/-- A choice for every node, given by the indices on the way from the node up to the top. -/
abbrev Spelling := List Nat → Choice

namespace Leaf

open Lexer

/-- A leaf as it is written. -/
def written (choice : Choice) : Leaf → List Char
  | .term value => value.toList
  | .phrase value => Text.inQuotes value.toList
  | .field name value exact => name.toList ++ ':' :: valueText exact value.toList
  | .property text exact =>
    let value := (propertyValue? text).map String.toList
    '[' :: (innerText (exact && (choice.quoteKey || value.isNone))
      (exact && (choice.quoteValue || !choice.quoteKey)) (propertyKey text).toList value ++ [']'])
  | .range name start stop startExact stopExact =>
    name.toList ++ ':' ::
      (valueText startExact start.toList ++ ('.' :: '.' :: valueText stopExact stop.toList))

/-- A value that is read back: without backslashes when it is in quotes, else not empty and without
blanks, parentheses and quotes. -/
def IsNormalValue (exact : Bool) (value : String) : Prop :=
  if exact then '\\' ∉ value.toList
  else value ≠ "" ∧ ∀ c ∈ value.toList, Text.isBlank c = false ∧ c ∉ ['(', ')', '"']

/-- A leaf that is read back from its written form. -/
def IsNormal : Leaf → Prop
  | .term value =>
    value ≠ "" ∧
      (∀ c ∈ value.toList, Text.isBlank c = false ∧ c ∉ ['(', ')', '"', '[', '-', ':']) ∧
      Text.upperString value ∉ ["AND", "OR", "NOT"]
  | .phrase value => '\\' ∉ value.toList
  | .field name value exact =>
    name ≠ "" ∧ (∀ c ∈ name.toList, c.isLower = true) ∧ IsNormalValue exact value ∧
      (exact = false → ¬['.', '.'] <:+: value.toList)
  | .property text _ =>
    IsPart (propertyKey text).toList ∧ ∀ v ∈ propertyValue? text, IsPart v.toList
  | .range name start stop startExact stopExact =>
    name ∈ dateFields ∧ IsNormalValue startExact start ∧ (startExact = false → '.' ∉ start.toList) ∧
      IsNormalValue stopExact stop

end Leaf

namespace Query

/-- Whether the query is a conjunction. -/
def isAnd : Query → Bool
  | and _ _ => true
  | _ => false

/-- Whether the query is a disjunction. -/
def isOr : Query → Bool
  | or _ _ => true
  | _ => false

/-- A text, in parentheses if need be. -/
def inParens (need : Bool) (w : List Char) : List Char := if need then '(' :: (w ++ [')']) else w

mutual

/-- A query as it is written, at the given place in a larger one. -/
def written (spelling : Spelling) (path : List Nat) : Query → List Char
  | leaf l _ => l.written (spelling path)
  | and [] _ | or [] _ => []
  | and (q :: qs) _ =>
    inParens q.isOr (q.written spelling (0 :: path)) ++ conjunctsWritten spelling path 1 qs
  | or (q :: qs) _ => q.written spelling (0 :: path) ++ disjunctsWritten spelling path 1 qs
  | not q _ => "NOT ".toList ++ inParens (q.isAnd || q.isOr) (q.written spelling (0 :: path))

/-- The operands of a conjunction from the given index on, each with what stands before it. -/
def conjunctsWritten (spelling : Spelling) (path : List Nat) : (index : Nat) → List Query → List Char
  | _, [] => []
  | i, q :: qs =>
    (if (spelling (i :: path)).explicit then " AND ".toList else [' ']) ++
      inParens q.isOr (q.written spelling (i :: path)) ++ conjunctsWritten spelling path (i + 1) qs

/-- The operands of a disjunction from the given index on, each with what stands before it. -/
def disjunctsWritten (spelling : Spelling) (path : List Nat) : (index : Nat) → List Query → List Char
  | _, [] => []
  | i, q :: qs =>
    " OR ".toList ++ q.written spelling (i :: path) ++ disjunctsWritten spelling path (i + 1) qs

end

mutual

/-- A query without useless nodes, all of whose leaves are read back: every conjunction and
disjunction has two operands at least, and none that is of its own kind. -/
def IsNormal : Query → Prop
  | leaf l _ => l.IsNormal
  | and qs _ => 2 ≤ qs.length ∧ (∀ q ∈ qs, q.isAnd = false) ∧ AllNormal qs
  | or qs _ => 2 ≤ qs.length ∧ (∀ q ∈ qs, q.isOr = false) ∧ AllNormal qs
  | not q _ => q.IsNormal

/-- All queries of a list are normal. -/
def AllNormal : List Query → Prop
  | [] => True
  | q :: qs => q.IsNormal ∧ AllNormal qs

end

mutual

/-- A query without its positions. -/
def bare : Query → Query
  | leaf l _ => leaf l 0
  | and qs _ => and (bareAll qs) 0
  | or qs _ => or (bareAll qs) 0
  | not q _ => not q.bare 0

/-- Queries without their positions. -/
def bareAll : List Query → List Query
  | [] => []
  | q :: qs => q.bare :: bareAll qs

end

/-- Positions are taken off operand by operand. -/
theorem bareAll_eq_map (qs : List Query) : bareAll qs = qs.map bare := by
  induction qs with
  | nil => rfl
  | cons q qs ih => rw [bareAll, ih, List.map_cons]

end Query

end TaskQuery
