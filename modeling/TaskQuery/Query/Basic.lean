import TaskQuery.Text.Span

/-!
# Search queries

A query combines *leaves* with and, or and not.  A leaf tests a task on its own: a term or a
phrase looks into the free text, a field, a property or a range into one part of the task.  Every
node keeps the position in the query text at which it was written; positions play no part in
what a query means.
-/

namespace TaskQuery

/-- A test on a task. -/
inductive Leaf where
  /-- A word that occurs somewhere in the task. -/
  | term (value : String)
  /-- A text that occurs somewhere in the task as a whole. -/
  | phrase (value : String)
  /-- A field and what it is to hold; `exact` when the value was quoted. -/
  | field (name value : String) (exact : Bool)
  /-- A property: `key`, or `key:value`; `exact` when a part was quoted. -/
  | property (text : String) (exact : Bool)
  /-- A date field between two dates; each end is exact when it was quoted. -/
  | range (name start stop : String) (startExact stopExact : Bool)
  deriving DecidableEq, Repr

/-- A search query. -/
inductive Query where
  /-- A single test. -/
  | leaf (test : Leaf) (position : Nat)
  /-- All operands match. -/
  | and (operands : List Query) (position : Nat)
  /-- At least one operand matches. -/
  | or (operands : List Query) (position : Nat)
  /-- The operand does not match. -/
  | not (operand : Query) (position : Nat)
  deriving Repr

/-- The fields that hold a date. -/
def dateFields : List String := ["scheduled", "deadline"]

namespace Leaf

/-- The key of a property text, the part before its first colon. -/
def propertyKey (text : String) : String :=
  String.ofList (text.toList.takeWhile (· ≠ ':'))

/-- The value of a property text, the part after its first colon. -/
def propertyValue? (text : String) : Option String :=
  (Text.cut? [':'] text.toList).map fun (_, value) => String.ofList value

end Leaf

namespace Query

/-- The operands of a conjunction; any other query is its own only operand. -/
def conjuncts : Query → List Query
  | and qs _ => qs
  | q => [q]

/-- The operands of a disjunction; any other query is its own only operand. -/
def disjuncts : Query → List Query
  | or qs _ => qs
  | q => [q]

/-- The conjunction of two operands that stand side by side: a conjunction on the left takes up
the right operand and keeps its place. -/
def conjoin (left right : Query) (position : Nat) : Query :=
  match left with
  | and qs p => and (qs ++ [right]) p
  | q => and [q, right] position

/-- The conjunction of the operands of `AND`. -/
def joinAnd (left right : Query) (position : Nat) : Query :=
  and (left.conjuncts ++ right.conjuncts) position

/-- The disjunction of the operands of `OR`. -/
def joinOr (left right : Query) (position : Nat) : Query :=
  or (left.disjuncts ++ right.disjuncts) position

end Query

end TaskQuery
