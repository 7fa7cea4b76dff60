import TaskQuery.Query.Basic
import TaskQuery.Text.Casing
import TaskQuery.Token.Lexer

/-!
# Parsing queries

From the loosest to the tightest, the operators are `OR`, `AND` and juxtaposition alike, `NOT`,
and `..`.  A disjunction is a conjunction with possibly another disjunction after `OR`; a
conjunction is a row of operands with or without `AND` between them; an operand is a leaf, a
parenthesised query or a negated operand.  Operands of one operator are gathered in one node.

Each function takes the tokens from where it starts, and gives the query together with the
tokens left over.  That something was taken is part of the result, since the recursion ends by
it.
-/

namespace TaskQuery

/-- What can be wrong with a query. -/
inductive SyntaxFault where
  /-- There is no token at all. -/
  | emptyQuery
  /-- An operand is missing at the end. -/
  | unexpectedEnd
  /-- An opening parenthesis is never closed. -/
  | unclosed
  /-- A closing parenthesis was never opened. -/
  | unopened
  /-- A field name without a value. -/
  | missingValue (lexeme : String)
  /-- A range operator after something else than a date field. -/
  | misplacedRange
  /-- A range operator without a value after it. -/
  | missingRangeEnd
  /-- A token that cannot stand where it stands. -/
  | unexpectedToken (lexeme : String)
  deriving DecidableEq, Repr

/-- A fault and its place in the query. -/
structure SyntaxError where
  /-- What is wrong. -/
  fault : SyntaxFault
  /-- Where it is wrong, in characters from the start of the query. -/
  position : Nat
  deriving DecidableEq, Repr

/-- The fault in words. -/
def SyntaxFault.message : SyntaxFault → String
  | emptyQuery => "Empty search query"
  | unexpectedEnd => "Unexpected end of query"
  | unclosed => "Expected closing parenthesis"
  | unopened => "Unmatched closing parenthesis"
  | missingValue lexeme => "Expected value after '" ++ lexeme ++ "'"
  | misplacedRange => "Range operator can only follow scheduled: or deadline:"
  | missingRangeEnd => "Expected date value after range operator"
  | unexpectedToken lexeme => "Unexpected token: " ++ lexeme

/-- The fault and its place in words. -/
def SyntaxError.message (e : SyntaxError) : String :=
  e.fault.message ++ " (at position " ++ toString e.position ++ ")"

/-- A query and the tokens left over, fewer than `bound`. -/
structure Parsed (bound : Nat) where
  /-- The query that was read. -/
  query : Query
  /-- The tokens left over. -/
  rest : List Token
  /-- At least the promised number of tokens was taken. -/
  shorter : rest.length < bound

namespace Parsed

/-- A result stays one under a larger bound. -/
def weaken {m n : Nat} (p : Parsed m) (h : m ≤ n) : Parsed n :=
  ⟨p.query, p.rest, Nat.lt_of_lt_of_le p.shorter h⟩

end Parsed

namespace Query

/-- The range operators after an operand, each with its end. -/
def ranges (left : Query) : (ts : List Token) → Except SyntaxError (Parsed (ts.length + 1))
  | [] => .ok ⟨left, [], Nat.lt_succ_self _⟩
  | op :: ts =>
    if op.kind ≠ .range then .ok ⟨left, op :: ts, Nat.lt_succ_self _⟩
    else
      match left with
      | leaf (.field name value exact) position =>
        if name ∉ dateFields then .error ⟨.misplacedRange, op.position⟩
        else
          match ts with
          | [] => .error ⟨.missingRangeEnd, op.position⟩
          | t :: ts =>
            if t.kind.isOperandValue then do
              let p ← ranges (leaf (.range name value t.value exact t.kind.isQuoted) position) ts
              return p.weaken (by simp only [List.length_cons]; omega)
            else .error ⟨.missingRangeEnd, op.position⟩
      | _ => .error ⟨.misplacedRange, op.position⟩

/-- The leaf of a property token.  A colon without a value after it counts as no colon. -/
def ofProperty (t : Token) : Query :=
  let (key, value) := Property.split (t.lexeme.toList.tail.dropLast)
  let exact := Property.isQuoted key || value.any Property.isQuoted
  let text :=
    if Leaf.propertyValue? t.value = some "" then Leaf.propertyKey t.value else t.value
  leaf (.property text exact) t.position

/-- The leaf of a field name with the value after it. -/
def ofField (name value : Token) : Query :=
  leaf (.field (Text.lowerString name.value) value.value value.kind.isQuoted) name.position

/-- The closing parenthesis of a query that was opened at `position`, and the ranges after it. -/
def closed (position : Nat) (inner : Query) :
    (ts : List Token) → Except SyntaxError (Parsed (ts.length + 1))
  | [] => .error ⟨.unclosed, position⟩
  | t :: ts =>
    if t.kind = .closeParen then do
      let p ← inner.ranges ts
      return p.weaken (Nat.le_succ _)
    else .error ⟨.unclosed, position⟩

/-- The value of a field name, and the ranges after it. -/
def fieldOperand (name : Token) : (ts : List Token) → Except SyntaxError (Parsed (ts.length + 1))
  | [] => .error ⟨.missingValue name.lexeme, name.position⟩
  | v :: ts =>
    if v.kind.isOperandValue then do
      let p ← (ofField name v).ranges ts
      return p.weaken (Nat.le_succ _)
    else .error ⟨.missingValue name.lexeme, name.position⟩

mutual

/-- Operands joined by `OR`.  `stop` is where the query ends. -/
def disjunction (stop : Nat) (ts : List Token) : Except SyntaxError (Parsed ts.length) := do
  let p ← conjunction stop ts
  have := p.shorter
  let q ← disjoined stop p.query p.rest
  return q.weaken this
termination_by (ts.length, 4)

/-- What follows the first operand of a disjunction. -/
def disjoined (stop : Nat) (left : Query) :
    (ts : List Token) → Except SyntaxError (Parsed (ts.length + 1))
  | [] => .ok ⟨left, [], Nat.lt_succ_self _⟩
  | t :: ts =>
    if t.kind = .or then do
      let right ← disjunction stop ts
      return ⟨left.joinOr right.query t.position, right.rest, by
        have := right.shorter; simp only [List.length_cons]; omega⟩
    else .ok ⟨left, t :: ts, Nat.lt_succ_self _⟩
termination_by ts => (ts.length, 1)

/-- Operands side by side or joined by `AND`. -/
def conjunction (stop : Nat) (ts : List Token) : Except SyntaxError (Parsed ts.length) := do
  let p ← operand stop ts
  have := p.shorter
  let q ← conjoined stop p.query p.rest
  return q.weaken this
termination_by (ts.length, 3)

/-- What follows the first operand of a conjunction. -/
def conjoined (stop : Nat) (left : Query) :
    (ts : List Token) → Except SyntaxError (Parsed (ts.length + 1))
  | [] => .ok ⟨left, [], Nat.lt_succ_self _⟩
  | t :: ts =>
    match t.kind with
    | .and => do
      let right ← conjunction stop ts
      return ⟨left.joinAnd right.query t.position, right.rest, by
        have := right.shorter; simp only [List.length_cons]; omega⟩
    | .not => do
      let p ← operand stop ts
      have := p.shorter
      let q ← conjoined stop (left.conjoin (not p.query t.position) t.position) p.rest
      return q.weaken (by simp only [List.length_cons]; omega)
    | .word | .phrase | .field | .property | .openParen => do
      let p ← operand stop (t :: ts)
      have := p.shorter
      let q ← conjoined stop (left.conjoin p.query t.position) p.rest
      return q.weaken (by omega)
    | _ => .ok ⟨left, t :: ts, Nat.lt_succ_self _⟩
termination_by ts => (ts.length, 2)

/-- A leaf, a query in parentheses or a negated operand, with the ranges after it. -/
def operand (stop : Nat) : (ts : List Token) → Except SyntaxError (Parsed ts.length)
  | [] => .error ⟨.unexpectedEnd, stop⟩
  | t :: ts =>
    match t.kind with
    | .not => do
      let p ← operand stop ts
      return ⟨not p.query t.position, p.rest, by
        have := p.shorter; simp only [List.length_cons]; omega⟩
    | .openParen => do
      let p ← disjunction stop ts
      let q ← closed t.position p.query p.rest
      return q.weaken (by have := p.shorter; simp only [List.length_cons]; omega)
    | .field => fieldOperand t ts
    | .property => (ofProperty t).ranges ts
    | .word | .value => (leaf (.term t.value) t.position).ranges ts
    | .phrase | .quotedValue => (leaf (.phrase t.value) t.position).ranges ts
    | .and | .or | .closeParen | .range => .error ⟨.unexpectedToken t.lexeme, t.position⟩
termination_by ts => (ts.length, 0)

end

/-- The query that the tokens make up; `stop` is where the query text ends. -/
def ofTokens (ts : List Token) (stop : Nat) : Except SyntaxError Query := do
  if ts.isEmpty then .error ⟨.emptyQuery, 0⟩
  else
    let p ← disjunction stop ts
    match p.rest with
    | [] => return p.query
    | t :: _ =>
      if t.kind = .closeParen then .error ⟨.unopened, t.position⟩
      else .error ⟨.unexpectedToken t.lexeme, t.position⟩

/-- The query that a text writes. -/
def parse (text : String) : Except SyntaxError Query := ofTokens (Token.scan text) text.length

/-- Whether a text writes a query. -/
def isValid (text : String) : Bool :=
  match parse text with
  | .ok _ => true
  | .error _ => false

/-- What is wrong with a text, in words; nothing when it writes a query. -/
def errorText? (text : String) : Option String :=
  match parse text with
  | .ok _ => none
  | .error e => some e.message

end Query

end TaskQuery
