import TaskQuery.Query.Parser
import TaskQuery.Result

/-!
# The parser step by step

What each function of the parser does with the token in front of it, apart from the bookkeeping
of lengths by which the parser ends.

* `outcome` is the result of a reader without that bookkeeping, and the lemmas `outcome_*` are its
  equations.  They say of every token what is read next and what is made of it, errors included.
* `linked` reads the operands behind the first one of an expression, conjunctions and disjunctions
  alike, and its equations `linked_*` make one loop of the four mutual readers.
* `ofTokens_cons`: the tokens of a whole text are read as an expression with nothing behind it.
* `operand_inv`, `operand_field_inv`, `closed_inv` and `ranges_range_inv` say what has to stand
  in front of a reader that succeeds.
-/

namespace TaskQuery

/-- The kinds of tokens with which an operand can start. -/
def Token.Kind.opensOperand : Token.Kind → Bool
  | word | phrase | field | property | openParen | not => true
  | _ => false

/-- What a reader found: the query and the tokens left over. -/
def outcome {bound : Nat} (r : Except SyntaxError (Parsed bound)) :
    Except SyntaxError (Query × List Token) :=
  r.map fun p => (p.query, p.rest)

variable {stop : Nat} {t : Token} {ts : List Token} {left : Query}

/-- The outcome of a reading is the query and the tokens that are left. -/
@[simp] theorem outcome_ok {bound : Nat} (p : Parsed bound) :
    outcome (.ok p) = .ok (p.query, p.rest) := rfl

/-- The outcome of a fault is the fault. -/
@[simp] theorem outcome_error {bound : Nat} (e : SyntaxError) :
    outcome (.error e : Except SyntaxError (Parsed bound)) = .error e := rfl

/-- A result under a larger bound is the same result. -/
theorem outcome_weaken {m n : Nat} (r : Except SyntaxError (Parsed m)) (h : m ≤ n) :
    outcome (r >>= fun p => pure (p.weaken h)) = outcome r := by
  cases r <;> rfl

/-- A reader leaves fewer tokens over than its bound. -/
theorem length_lt_of_outcome {bound : Nat} {r : Except SyntaxError (Parsed bound)} {q : Query}
    {rest : List Token} (h : outcome r = .ok (q, rest)) : rest.length < bound := by
  cases r with
  | error e => cases h
  | ok p =>
    obtain ⟨query, rest', hlt⟩ := p
    cases h
    exact hlt

namespace Query

/-- An expression is a row, and what `OR` adds to it. -/
theorem outcome_disjunction : outcome (disjunction stop ts) =
    outcome (conjunction stop ts) >>= fun (q, rest) => outcome (disjoined stop q rest) := by
  rw [disjunction]
  cases conjunction stop ts with
  | error e => rfl
  | ok p => exact outcome_weaken _ _

/-- A row is an operand, and what `AND` or nothing adds to it. -/
theorem outcome_conjunction : outcome (conjunction stop ts) =
    outcome (operand stop ts) >>= fun (q, rest) => outcome (conjoined stop q rest) := by
  rw [conjunction]
  cases operand stop ts with
  | error e => rfl
  | ok p => exact outcome_weaken _ _

/-- Behind `OR` stands another expression. -/
theorem outcome_disjoined_or (h : t.kind = .or) : outcome (disjoined stop left (t :: ts)) =
    outcome (disjunction stop ts) >>= fun (q, rest) => .ok (left.joinOr q t.position, rest) := by
  rw [disjoined]
  simp only [h, ↓reduceIte]
  cases disjunction stop ts <;> rfl

/-- A disjunction ends where no `OR` follows. -/
theorem outcome_disjoined_of_ne (h : t.kind ≠ .or) :
    outcome (disjoined stop left (t :: ts)) = .ok (left, t :: ts) := by
  rw [disjoined]
  simp only [h, ↓reduceIte]
  rfl

/-- Behind `AND` stands the rest of the row. -/
theorem outcome_conjoined_and (h : t.kind = .and) : outcome (conjoined stop left (t :: ts)) =
    outcome (conjunction stop ts) >>= fun (q, rest) => .ok (left.joinAnd q t.position, rest) := by
  rw [conjoined]
  simp only [h]
  cases conjunction stop ts <;> rfl

/-- Behind `NOT` stands the operand that is negated. -/
theorem outcome_operand_not (h : t.kind = .not) : outcome (operand stop (t :: ts)) =
    outcome (operand stop ts) >>= fun (q, rest) => .ok (not q t.position, rest) := by
  rw [operand]
  simp only [h]
  cases operand stop ts <;> rfl

/-- An operand may stand right beside another one. -/
theorem outcome_conjoined_beside (h : t.kind.opensOperand = true) :
    outcome (conjoined stop left (t :: ts)) =
      outcome (operand stop (t :: ts)) >>= fun (q, rest) =>
        outcome (conjoined stop (left.conjoin q t.position) rest) := by
  cases hk : t.kind with
  | not =>
    rw [conjoined, outcome_operand_not hk]
    simp only [hk]
    cases operand stop ts with
    | error e => rfl
    | ok p => exact outcome_weaken _ _
  | word | phrase | field | property | openParen =>
    rw [conjoined]
    simp only [hk]
    cases operand stop (t :: ts) with
    | error e => rfl
    | ok p => exact outcome_weaken _ _
  | _ => simp [hk, Token.Kind.opensOperand] at h

/-! ## Ranges -/

/-- No range operator stands in front of the tokens. -/
def NoRange (ts : List Token) : Prop := ∀ t ∈ ts.head?, t.kind ≠ .range

/-- Without a range mark nothing changes. -/
theorem outcome_ranges_of_noRange (h : NoRange ts) : outcome (ranges left ts) = .ok (left, ts) := by
  cases ts with
  | nil => simp [ranges]
  | cons op ts =>
    have hop : op.kind ≠ .range := h op rfl
    unfold ranges
    rw [if_pos hop]
    rfl

/-- Another token in front is no range mark. -/
theorem noRange_cons {op : Token} (h : op.kind ≠ .range) : NoRange (op :: ts) := by
  intro t ht
  obtain rfl : op = t := by simpa using ht
  exact h

/-- A range mark makes a date field a range up to the value behind it. -/
theorem outcome_ranges_range {name value : String} {exact : Bool} {position : Nat} {op w : Token}
    (hop : op.kind = .range) (hd : name ∈ dateFields) (hw : w.kind.isOperandValue) :
    outcome (ranges (leaf (.field name value exact) position) (op :: w :: ts)) =
      outcome (ranges (leaf (.range name value w.value exact w.kind.isQuoted) position) ts) := by
  rw [ranges]
  simp only [hop, ne_eq, not_true_eq_false, ↓reduceIte, hd, hw]
  exact outcome_weaken _ _

/-- A field that holds a date, with its value. -/
def IsDateField (q : Query) : Prop :=
  ∃ name value exact p, q = leaf (.field name value exact) p ∧ name ∈ dateFields

/-- A range operator stands behind a date field only. -/
theorem outcome_ranges_misplaced {op : Token} (hop : op.kind = .range) (h : ¬left.IsDateField) :
    outcome (ranges left (op :: ts)) = .error ⟨.misplacedRange, op.position⟩ := by
  unfold ranges
  simp only [hop, ne_eq, not_true_eq_false, ↓reduceIte]
  split
  · next name value exact p =>
    have hd : name ∉ dateFields := fun hd => h ⟨name, value, exact, p, rfl, hd⟩
    rw [if_pos hd]
    rfl
  · rfl

/-- A range operator needs an end. -/
theorem outcome_ranges_missing {op : Token} (hop : op.kind = .range) (hd : left.IsDateField)
    (h : ∀ w ∈ ts.head?, w.kind.isOperandValue = false) :
    outcome (ranges left (op :: ts)) = .error ⟨.missingRangeEnd, op.position⟩ := by
  obtain ⟨name, value, exact, p, rfl, hd⟩ := hd
  unfold ranges
  simp only [hop, ne_eq, not_true_eq_false, ↓reduceIte, hd]
  cases ts with
  | nil => rfl
  | cons w ts =>
    have hw : w.kind.isOperandValue = false := h w rfl
    simp only [hw, Bool.false_eq_true, ↓reduceIte]
    rfl

/-- A range operator is taken behind a date field only, and together with an end. -/
theorem ranges_range_inv {q : Query} {rest : List Token} {op : Token} (hop : op.kind = .range)
    (h : outcome (ranges left (op :: ts)) = .ok (q, rest)) :
    ∃ name value exact position w us, left = leaf (.field name value exact) position ∧
      name ∈ dateFields ∧ w.kind.isOperandValue = true ∧ ts = w :: us := by
  unfold ranges at h
  simp only [hop, ne_eq, not_true_eq_false, ↓reduceIte] at h
  split at h
  · next name value exact position =>
    split at h
    · simp at h
    · next hd =>
      split at h
      · simp at h
      · next w us =>
        split at h
        · next hw => exact ⟨name, value, exact, position, w, us, rfl, Decidable.not_not.1 hd, hw, rfl⟩
        · simp at h
  · simp at h

/-! ## Operands -/

/-- An opening parenthesis begins an expression that has to be closed. -/
theorem outcome_operand_openParen (h : t.kind = .openParen) : outcome (operand stop (t :: ts)) =
    outcome (disjunction stop ts) >>= fun (q, rest) => outcome (closed t.position q rest) := by
  rw [operand]
  simp only [h]
  cases disjunction stop ts with
  | error e => rfl
  | ok p => exact outcome_weaken _ _

/-- A closing parenthesis ends the expression. -/
theorem outcome_closed {position : Nat} (h : t.kind = .closeParen) :
    outcome (closed position left (t :: ts)) = outcome (ranges left ts) := by
  rw [closed]
  simp only [h, ↓reduceIte]
  exact outcome_weaken _ _

/-- Without it the opening one is at fault. -/
theorem outcome_closed_of_ne {position : Nat} (h : t.kind ≠ .closeParen) :
    outcome (closed position left (t :: ts)) = .error ⟨.unclosed, position⟩ := by
  rw [closed, if_neg h]
  rfl

/-- What closes a parenthesis is a closing parenthesis. -/
theorem closed_inv {position : Nat} {q : Query} {rest : List Token}
    (h : outcome (closed position left ts) = .ok (q, rest)) :
    ∃ t us, ts = t :: us ∧ t.kind = .closeParen := by
  unfold closed at h
  split at h
  · simp at h
  · split at h
    · next t us ht => exact ⟨t, us, rfl, ht⟩
    · simp at h

/-- A field takes the value behind it. -/
theorem outcome_fieldOperand {v : Token} (hv : v.kind.isOperandValue) :
    outcome (fieldOperand t (v :: ts)) = outcome (ranges (ofField t v) ts) := by
  rw [fieldOperand, if_pos hv]
  exact outcome_weaken _ _

/-- A field with a value is an operand. -/
theorem outcome_operand_field {v : Token} (h : t.kind = .field) (hv : v.kind.isOperandValue) :
    outcome (operand stop (t :: v :: ts)) = outcome (ranges (ofField t v) ts) := by
  rw [operand]
  simp only [h]
  exact outcome_fieldOperand hv

/-- A field name is taken together with a value only. -/
theorem operand_field_inv {q : Query} {rest : List Token} (ht : t.kind = .field)
    (h : outcome (operand stop (t :: ts)) = .ok (q, rest)) :
    ∃ v us, ts = v :: us ∧ v.kind.isOperandValue = true := by
  rw [operand] at h
  simp only [ht] at h
  unfold fieldOperand at h
  split at h
  · simp at h
  · split at h
    · next v us hv => exact ⟨v, us, rfl, hv⟩
    · simp at h

/-- A word is an operand. -/
theorem outcome_operand_word (h : t.kind = .word) : outcome (operand stop (t :: ts)) =
    outcome (ranges (leaf (.term t.value) t.position) ts) := by
  rw [operand]
  simp only [h]

/-- A phrase is an operand. -/
theorem outcome_operand_phrase (h : t.kind = .phrase) : outcome (operand stop (t :: ts)) =
    outcome (ranges (leaf (.phrase t.value) t.position) ts) := by
  rw [operand]
  simp only [h]

/-- A property is an operand. -/
theorem outcome_operand_property (h : t.kind = .property) : outcome (operand stop (t :: ts)) =
    outcome (ranges (ofProperty t) ts) := by
  rw [operand]
  simp only [h]

/-- An operand starts with a token that opens operands, or with a value. -/
theorem operand_inv {q : Query} {rest : List Token}
    (h : outcome (operand stop (t :: ts)) = .ok (q, rest)) :
    t.kind.opensOperand = true ∨ t.kind.isOperandValue = true := by
  cases hk : t.kind with
  | and | or | closeParen | range =>
    rw [operand] at h
    simp [hk] at h
  | value | quotedValue => exact .inr rfl
  | _ => exact .inl rfl

/-- At the end a row ends. -/
theorem outcome_conjoined_nil : outcome (conjoined stop left []) = .ok (left, []) := by
  rw [conjoined]
  rfl

/-- A conjunction ends where neither `AND` nor an operand follows. -/
theorem outcome_conjoined_of_not_opens (h : t.kind.opensOperand = false) (ha : t.kind ≠ .and) :
    outcome (conjoined stop left (t :: ts)) = .ok (left, t :: ts) := by
  rw [conjoined]
  cases hk : t.kind <;> simp_all [Token.Kind.opensOperand]

/-- At the end an expression ends. -/
theorem outcome_disjoined_nil : outcome (disjoined stop left []) = .ok (left, []) := by
  rw [disjoined]
  rfl

/-- At the end an operand is missing. -/
theorem outcome_operand_nil : outcome (operand stop []) = .error ⟨.unexpectedEnd, stop⟩ := by
  rw [operand]
  rfl

/-! ## Rows -/

/-- Read the operands behind `left` up to the end of the expression.  `wrap` puts their
conjunction behind the operands since the last `OR`. -/
def linked (stop : Nat) (wrap : Query → Query) (left : Query) (ts : List Token) :
    Except SyntaxError (Query × List Token) :=
  outcome (conjoined stop left ts) >>= fun (q, rest) => outcome (disjoined stop (wrap q) rest)

/-- An expression is its first operand and what is linked to it. -/
theorem outcome_disjunction_eq_linked : outcome (disjunction stop ts) =
    outcome (operand stop ts) >>= fun (q, rest) => linked stop id q rest := by
  rw [outcome_disjunction, outcome_conjunction]
  simp only [bind_assoc, linked, id]

variable {wrap : Query → Query}

/-- At the end nothing more is linked. -/
theorem linked_nil : linked stop wrap left [] = .ok (wrap left, []) := by
  rw [linked, outcome_conjoined_nil]
  exact outcome_disjoined_nil

/-- An operand beside another one is linked to it. -/
theorem linked_beside (h : t.kind.opensOperand = true) : linked stop wrap left (t :: ts) =
    outcome (operand stop (t :: ts)) >>= fun (q, rest) =>
      linked stop wrap (left.conjoin q t.position) rest := by
  rw [linked, outcome_conjoined_beside h]
  simp only [bind_assoc, linked]

/-- What stands behind `AND` begins a row of its own on the right. -/
theorem linked_and (h : t.kind = .and) : linked stop wrap left (t :: ts) =
    outcome (operand stop ts) >>= fun (q, rest) =>
      linked stop (fun right => wrap (left.joinAnd right t.position)) q rest := by
  rw [linked, outcome_conjoined_and h, outcome_conjunction]
  simp only [bind_assoc, linked]
  rfl

/-- What stands behind `OR` begins an expression of its own. -/
theorem linked_or (h : t.kind = .or) : linked stop wrap left (t :: ts) =
    outcome (operand stop ts) >>= fun (q, rest) => linked stop id q rest >>= fun (r, rest) =>
      .ok ((wrap left).joinOr r t.position, rest) := by
  have hc : outcome (conjoined stop left (t :: ts)) = .ok (left, t :: ts) :=
    outcome_conjoined_of_not_opens (by rw [h]; rfl) (by rw [h]; decide)
  rw [linked, hc]
  show outcome (disjoined stop (wrap left) (t :: ts)) = _
  rw [outcome_disjoined_or h, outcome_disjunction_eq_linked]
  simp only [bind_assoc]

/-- An expression ends where neither a joint nor an operand follows. -/
theorem linked_of_not_opens (h : t.kind.opensOperand = false) (ha : t.kind ≠ .and)
    (ho : t.kind ≠ .or) : linked stop wrap left (t :: ts) = .ok (wrap left, t :: ts) := by
  rw [linked, outcome_conjoined_of_not_opens h ha]
  exact outcome_disjoined_of_ne ho

/-! ## Whole texts -/

/-- The query of a whole text: nothing may be left over behind it. -/
def whole : Query × List Token → Except SyntaxError Query
  | (q, []) => .ok q
  | (_, t :: _) =>
    if t.kind = .closeParen then .error ⟨.unopened, t.position⟩
    else .error ⟨.unexpectedToken t.lexeme, t.position⟩

/-- A reading is whole if no tokens are left. -/
theorem whole_eq_ok_iff {q q' : Query} : whole (q', ts) = .ok q ↔ q' = q ∧ ts = [] := by
  cases ts with
  | nil => simp [whole]
  | cons t ts =>
    rw [whole]
    split <;> simp

/-- Tokens are read as an expression that takes them all. -/
theorem ofTokens_cons : ofTokens (t :: ts) stop = outcome (disjunction stop (t :: ts)) >>= whole := by
  rw [ofTokens, List.isEmpty_cons, if_neg (by decide)]
  cases disjunction stop (t :: ts) with
  | error e => rfl
  | ok p =>
    obtain ⟨q, rest, hlt⟩ := p
    cases rest <;> rfl

end Query

end TaskQuery
