/-!
# Tokens of a search query

A query is cut into tokens.  A token keeps the text it was read from, so that the tokens of a
query can be laid over the query again, and the value that this text stands for: without quotes,
colons or brackets.
-/

namespace TaskQuery

namespace Token

/-- The kinds of tokens. -/
inductive Kind where
  /-- A bare word. -/
  | word
  /-- A text in double quotes. -/
  | phrase
  /-- A field name with its colon. -/
  | field
  /-- A bare value right after a field name. -/
  | value
  /-- A quoted value right after a field name. -/
  | quotedValue
  /-- A property in square brackets. -/
  | property
  /-- The keyword `AND`. -/
  | and
  /-- The keyword `OR`. -/
  | or
  /-- The keyword `NOT`, or a dash in front of an operand. -/
  | not
  /-- An opening parenthesis. -/
  | openParen
  /-- A closing parenthesis. -/
  | closeParen
  /-- The two dots between the ends of a range. -/
  | range
  deriving DecidableEq, Repr

namespace Kind

/-- The name under which a kind is reported. -/
def name : Kind → String
  | word => "word"
  | phrase => "phrase"
  | field => "prefix"
  | value => "prefix_value"
  | quotedValue => "prefix_value_quoted"
  | property => "property"
  | and => "and"
  | or => "or"
  | not => "not"
  | openParen => "lparen"
  | closeParen => "rparen"
  | range => "range"

/-- A value that may follow a field name or a range operator. -/
def isOperandValue : Kind → Bool
  | word | phrase | value | quotedValue => true
  | _ => false

/-- A value that was written in double quotes. -/
def isQuoted : Kind → Bool
  | phrase | quotedValue => true
  | _ => false

end Kind

end Token

/-- A lexical unit of a query. -/
structure Token where
  /-- What the token is. -/
  kind : Token.Kind
  /-- What the text of the token stands for. -/
  value : String
  /-- The text of the token. -/
  lexeme : String
  /-- The number of characters of the query before the token. -/
  position : Nat
  deriving DecidableEq, Repr

/-- The number of characters of the query up to the end of the token. -/
def Token.stop (t : Token) : Nat := t.position + t.lexeme.length

end TaskQuery
