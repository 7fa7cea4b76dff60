import TaskQuery.Proofs.Query.Steps

/-!
# The grammar of queries

A query text is read token by token by the grammar

    Expression := Operand ((AND | OR)? Operand)*
    Operand    := NOT Operand | ( Expression ) | Unit
    Unit       := WORD | PHRASE | PROPERTY | FIELD Value | FIELD Value .. Value

in which all operators stand on one level: it says which token sequences are queries, and not
how `AND`, `OR` and juxtaposition bind.

* `Operand`, `Expression` and `Links` are the trees of this grammar.  They keep what is written
  between two operands, and the positions of leaves, negations and joints.
* `Operand.Reads`, `Expression.Reads` and `Links.Reads` say that tokens derive a tree.
* `Operand.query` is the query that a tree stands for, built up by the rules of the parser from
  left to right (`Query.gather`).
-/

namespace TaskQuery

/-- What stands between an operand and the one before it. -/
inductive Joint where
  /-- Nothing: the two stand side by side. -/
  | beside
  /-- The keyword `AND`. -/
  | and
  /-- The keyword `OR`. -/
  | or
  deriving DecidableEq

/-- The token kind of a written joint. -/
def Joint.kind? : Joint → Option Token.Kind
  | beside => none
  | and => some .and
  | or => some .or

/-- An item of a row after the first one: how it is joined to what stands before it, and where. -/
structure Joined (α : Type) where
  /-- What stands between the item and the one before it. -/
  joint : Joint
  /-- The position of the joint, or of the item when nothing is written between. -/
  position : Nat
  /-- The item. -/
  item : α

mutual

/-- A unary operand as it is written. -/
inductive Operand where
  /-- A unit that makes up a leaf. -/
  | test (l : Leaf) (position : Nat)
  /-- A negated operand. -/
  | negated (o : Operand) (position : Nat)
  /-- An expression in parentheses. -/
  | group (e : Expression)

/-- Operands in a row. -/
inductive Expression where
  /-- The first operand and those joined to it. -/
  | row (first : Operand) (rest : Links)

/-- The operands of a row after its first one. -/
inductive Links where
  /-- The end of the row. -/
  | nil
  /-- An operand, how it is joined to what stands before it, and the operands after it. -/
  | cons (joint : Joint) (position : Nat) (o : Operand) (rest : Links)

end

mutual

/-- The tokens are read as the operand. -/
inductive Operand.Reads : List Token → Operand → Prop where
  | negated {t : Token} {ts : List Token} {o : Operand} (ht : t.kind = .not)
      (ho : Operand.Reads ts o) : Operand.Reads (t :: ts) (.negated o t.position)
  | group {l r : Token} {ts : List Token} {e : Expression} (hl : l.kind = .openParen)
      (he : Expression.Reads ts e) (hr : r.kind = .closeParen) :
      Operand.Reads (l :: (ts ++ [r])) (.group e)
  | word {t : Token} (ht : t.kind = .word) : Operand.Reads [t] (.test (.term t.value) t.position)
  | phrase {t : Token} (ht : t.kind = .phrase) :
      Operand.Reads [t] (.test (.phrase t.value) t.position)
  | property {t : Token} {l : Leaf} (ht : t.kind = .property)
      (hl : Query.ofProperty t = .leaf l t.position) : Operand.Reads [t] (.test l t.position)
  | field {f v : Token} (hf : f.kind = .field) (hv : v.kind.isOperandValue) :
      Operand.Reads [f, v]
        (.test (.field (Text.lowerString f.value) v.value v.kind.isQuoted) f.position)
  | range {f v r w : Token} (hf : f.kind = .field) (hv : v.kind.isOperandValue)
      (hr : r.kind = .range) (hw : w.kind.isOperandValue)
      (hd : Text.lowerString f.value ∈ dateFields) :
      Operand.Reads [f, v, r, w]
        (.test (.range (Text.lowerString f.value) v.value w.value v.kind.isQuoted w.kind.isQuoted)
          f.position)

/-- The tokens are read as the expression. -/
inductive Expression.Reads : List Token → Expression → Prop where
  | row {ts us : List Token} {o : Operand} {rest : Links} (ho : Operand.Reads ts o)
      (hs : Links.Reads us rest) : Expression.Reads (ts ++ us) (.row o rest)

/-- The tokens are read as the operands after the first one of a row. -/
inductive Links.Reads : List Token → Links → Prop where
  | nil : Links.Reads [] .nil
  | beside {t : Token} {ts us : List Token} {o : Operand} {rest : Links}
      (ho : Operand.Reads (t :: ts) o) (hs : Links.Reads us rest) :
      Links.Reads (t :: (ts ++ us)) (.cons .beside t.position o rest)
  | written {t : Token} {ts us : List Token} {j : Joint} {o : Operand} {rest : Links}
      (hj : j.kind? = some t.kind) (ho : Operand.Reads ts o) (hs : Links.Reads us rest) :
      Links.Reads (t :: (ts ++ us)) (.cons j t.position o rest)

end

/-- An operand has a first token, of a kind that opens operands. -/
theorem Operand.Reads.exists_cons {us : List Token} {o : Operand} (h : o.Reads us) :
    ∃ t ts, us = t :: ts ∧ t.kind.opensOperand = true := by
  cases h with
  | negated ht | word ht | phrase ht | property ht => exact ⟨_, _, rfl, by rw [ht]; rfl⟩
  | group hl => exact ⟨_, _, rfl, by rw [hl]; rfl⟩
  | field hf | range hf => exact ⟨_, _, rfl, by rw [hf]; rfl⟩

/-- An expression has at least one token. -/
theorem Expression.Reads.ne_nil {us : List Token} {e : Expression} (h : e.Reads us) : us ≠ [] := by
  obtain ⟨ho, -⟩ := h
  obtain ⟨t, ts, rfl, -⟩ := ho.exists_cons
  simp

/-! ## The query of a tree -/

namespace Query

/-- The query of a row: `left` is what the operands since the last `AND` or `OR` make up, and
`wrap` puts it behind the operands since the last `OR`. -/
def gather (wrap : Query → Query) (left : Query) : List (Joined Query) → Query
  | [] => wrap left
  | ⟨.beside, p, q⟩ :: rest => gather wrap (left.conjoin q p) rest
  | ⟨.and, p, q⟩ :: rest => gather (fun right => wrap (left.joinAnd right p)) q rest
  | ⟨.or, p, q⟩ :: rest => (wrap left).joinOr (gather id q rest) p

end Query

mutual

/-- The query of an operand. -/
def Operand.query : Operand → Query
  | .test l position => .leaf l position
  | .negated o position => .not o.query position
  | .group e => e.query

/-- The query of an expression. -/
def Expression.query : Expression → Query
  | .row first rest => Query.gather id first.query rest.queries

/-- The queries of the operands after the first one, each with its joint. -/
def Links.queries : Links → List (Joined Query)
  | .nil => []
  | .cons joint position o rest => ⟨joint, position, o.query⟩ :: rest.queries

end

end TaskQuery
