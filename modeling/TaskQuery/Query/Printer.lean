import TaskQuery.Query.Basic

/-!
# Queries as S-expressions

The compact form in which a query is shown: operators in front of their operands, quoted values
in double quotes, and an exclamation mark behind an exact property.
-/

namespace TaskQuery

/-- A value in double quotes when it is exact. -/
def quoteWhen (exact : Bool) (value : String) : String :=
  if exact then "\"" ++ value ++ "\"" else value

/-- A leaf as it is shown. -/
def Leaf.sexpr : Leaf → String
  | .term value => value
  | .phrase value => quoteWhen true value
  | .field name value exact => name ++ ":" ++ quoteWhen exact value
  | .property text exact => "[" ++ text ++ "]" ++ (if exact then "!" else "")
  | .range name start stop startExact stopExact =>
    name ++ ":" ++ quoteWhen startExact start ++ ".." ++ quoteWhen stopExact stop

namespace Query

mutual

/-- A query as it is shown. -/
def sexpr : Query → String
  | leaf test _ => test.sexpr
  | and qs _ => "(and " ++ " ".intercalate (sexprs qs) ++ ")"
  | or qs _ => "(or " ++ " ".intercalate (sexprs qs) ++ ")"
  | not q _ => "(not " ++ q.sexpr ++ ")"

/-- Each query of a list as it is shown. -/
def sexprs : List Query → List String
  | [] => []
  | q :: qs => q.sexpr :: sexprs qs

end

end Query

end TaskQuery
