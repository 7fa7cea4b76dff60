import TaskQuery.Proofs.Query.Steps
import TaskQuery.Proofs.Query.Writing
import TaskQuery.Proofs.Token.Locality

/-!
# A dash is a `NOT`

The parser hands positions on and never looks at them, so tokens that are moved are read as the same
query with its positions moved, or refused for the same fault at the moved place.  A text behind a dash
has the tokens that it has behind `NOT` and a space, three characters further on.

* `Token.move`, `Query.move`, `moveResult`: positions that are moved by any function.
* `moveResult_bind`: one step of a reader after another.
* `ranges_move`, `operandMoves_cons`, `linksMove_cons`: what each reader does with moved tokens.
* `ofTokens_move`: so does the parser with the tokens of a whole text.
* `scan_dash_append`, `scan_not_append`: the tokens behind a dash and behind a `NOT`.
* `parse_dash`: the two texts have the same tokens and the same query.
-/

namespace TaskQuery

/-- The token with its position moved. -/
def Token.move (f : Nat → Nat) (t : Token) : Token := { t with position := f t.position }

/-- The error with its position moved. -/
def SyntaxError.move (f : Nat → Nat) (e : SyntaxError) : SyntaxError :=
  { e with position := f e.position }

namespace Query

mutual

/-- The query with all its positions moved. -/
def move (f : Nat → Nat) : Query → Query
  | leaf l p => leaf l (f p)
  | and qs p => and (moveAll f qs) (f p)
  | or qs p => or (moveAll f qs) (f p)
  | not q p => not (q.move f) (f p)

/-- Queries with all their positions moved. -/
def moveAll (f : Nat → Nat) : List Query → List Query
  | [] => []
  | q :: qs => q.move f :: moveAll f qs

end

variable {f : Nat → Nat} {stop : Nat} {t : Token} {ts : List Token} {left : Query}

/-- Operands are moved one by one. -/
theorem moveAll_eq_map (qs : List Query) : moveAll f qs = qs.map (move f) := by
  induction qs with
  | nil => rfl
  | cons q qs ih => rw [moveAll, ih, List.map_cons]

mutual

/-- Without its positions a moved query is what it was. -/
theorem bare_move (q : Query) : (q.move f).bare = q.bare := by
  match q with
  | .leaf l p => rfl
  | .and qs p => rw [move, bare, bare, bareAll_moveAll qs]
  | .or qs p => rw [move, bare, bare, bareAll_moveAll qs]
  | .not q p => rw [move, bare, bare, bare_move q]

/-- Without positions, moved operands are the same. -/
theorem bareAll_moveAll (qs : List Query) : bareAll (moveAll f qs) = bareAll qs := by
  match qs with
  | [] => rfl
  | q :: qs => rw [moveAll, bareAll, bareAll, bare_move q, bareAll_moveAll qs]

end

/-! ## Queries that are put together -/

/-- The conjuncts of a moved query are moved. -/
theorem conjuncts_move (q : Query) : (q.move f).conjuncts = q.conjuncts.map (move f) := by
  cases q with
  | and qs p => exact moveAll_eq_map qs
  | _ => rfl

/-- The disjuncts of a moved query are moved. -/
theorem disjuncts_move (q : Query) : (q.move f).disjuncts = q.disjuncts.map (move f) := by
  cases q with
  | or qs p => exact moveAll_eq_map qs
  | _ => rfl

/-- A conjunction of moved queries is a moved conjunction. -/
theorem conjoin_move (left right : Query) (p : Nat) :
    (left.move f).conjoin (right.move f) (f p) = (left.conjoin right p).move f := by
  cases left with
  | and qs p' => simp only [move, conjoin, moveAll_eq_map, List.map_append, List.map_singleton]
  | _ => rfl

/-- Moved queries are joined by `AND` as the queries are. -/
theorem joinAnd_move (left right : Query) (p : Nat) :
    (left.move f).joinAnd (right.move f) (f p) = (left.joinAnd right p).move f := by
  rw [joinAnd, joinAnd, move, moveAll_eq_map, conjuncts_move, conjuncts_move, List.map_append]

/-- Moved queries are joined by `OR` as the queries are. -/
theorem joinOr_move (left right : Query) (p : Nat) :
    (left.move f).joinOr (right.move f) (f p) = (left.joinOr right p).move f := by
  rw [joinOr, joinOr, move, moveAll_eq_map, disjuncts_move, disjuncts_move, List.map_append]

/-- The leaf of a property token is made of its text. -/
theorem ofProperty_move (t : Token) : ofProperty (t.move f) = (ofProperty t).move f := rfl

/-- A field of moved tokens is a moved field. -/
theorem ofField_move (name value : Token) :
    ofField (name.move f) (value.move f) = (ofField name value).move f := rfl

/-! ## Results -/

/-- A result with its positions moved, where `g` moves those of what was read. -/
def moveResult {α β : Type} (f : Nat → Nat) (g : α → β) :
    Except SyntaxError α → Except SyntaxError β
  | .ok a => .ok (g a)
  | .error e => .error (e.move f)

/-- What a reader found, with the positions of the query and of the tokens left over moved. -/
def moveRead (f : Nat → Nat) (p : Query × List Token) : Query × List Token :=
  (p.1.move f, p.2.map (Token.move f))

/-- Steps that move give a run that moves. -/
theorem moveResult_bind {α β γ δ : Type} {g : α → β} {g' : γ → δ} {x : Except SyntaxError α}
    {k : α → Except SyntaxError γ} {k' : β → Except SyntaxError δ}
    (h : ∀ a, x = .ok a → k' (g a) = moveResult f g' (k a)) :
    (moveResult f g x >>= k') = moveResult f g' (x >>= k) := by
  cases x with
  | error e => rfl
  | ok a => exact h a rfl

/-! ## Readers -/

/-- Moving does not change whether a query asks for a date field. -/
theorem isDateField_move {q : Query} : (q.move f).IsDateField ↔ q.IsDateField := by
  constructor
  · rintro ⟨name, value, exact, p, hq, hd⟩
    cases q with
    | leaf l p' =>
      obtain ⟨rfl, -⟩ := leaf.inj hq
      exact ⟨name, value, exact, p', rfl, hd⟩
    | _ => cases hq
  · rintro ⟨name, value, exact, p, rfl, hd⟩
    exact ⟨name, value, exact, f p, rfl, hd⟩

/-- A moved token is of the same kind, so what stands in front is so too. -/
theorem forall_head_move (P : Token.Kind → Prop) (h : ∀ t ∈ ts.head?, P t.kind) :
    ∀ t ∈ (ts.map (Token.move f)).head?, P t.kind := by
  cases ts with
  | nil => exact h
  | cons t ts =>
    intro u hu
    obtain rfl : t.move f = u := by simpa using hu
    exact h t rfl

/-- Ranges behind an operand. -/
theorem ranges_move (left : Query) (ts : List Token) :
    outcome (ranges (left.move f) (ts.map (Token.move f))) =
      moveResult f (moveRead f) (outcome (ranges left ts)) := by
  match ts with
  | [] =>
    have hnone : NoRange [] := fun _ ht => by cases ht
    rw [List.map_nil, outcome_ranges_of_noRange hnone, outcome_ranges_of_noRange hnone]
    rfl
  | op :: ts =>
    by_cases hop : op.kind = .range
    · have hop' : (op.move f).kind = .range := hop
      rw [List.map_cons]
      by_cases hdate : left.IsDateField
      · have hdate' : (left.move f).IsDateField := isDateField_move.2 hdate
        by_cases hmissing : ∀ w ∈ ts.head?, w.kind.isOperandValue = false
        · rw [outcome_ranges_missing hop hdate hmissing,
            outcome_ranges_missing hop' hdate'
              (forall_head_move (·.isOperandValue = false) hmissing)]
          rfl
        · cases ts with
          | nil => exact absurd (by simp) hmissing
          | cons w us =>
            have hw : w.kind.isOperandValue = true := by simpa using hmissing
            obtain ⟨name, value, exact, p, rfl, hd⟩ := hdate
            rw [outcome_ranges_range hop hd hw, ← ranges_move _ us]
            exact outcome_ranges_range hop' hd hw
      · rw [outcome_ranges_misplaced hop hdate,
          outcome_ranges_misplaced hop' (mt isDateField_move.1 hdate)]
        rfl
    · have hnone : NoRange (op :: ts) := noRange_cons hop
      rw [outcome_ranges_of_noRange hnone,
        outcome_ranges_of_noRange (forall_head_move (· ≠ .range) hnone)]
      rfl
termination_by ts.length

/-- The closing parenthesis of a query in parentheses. -/
theorem closed_move (p : Nat) (inner : Query) (ts : List Token) :
    outcome (closed (f p) (inner.move f) (ts.map (Token.move f))) =
      moveResult f (moveRead f) (outcome (closed p inner ts)) := by
  cases ts with
  | nil => rfl
  | cons t ts =>
    rw [List.map_cons]
    by_cases ht : t.kind = .closeParen
    · rw [outcome_closed ht, outcome_closed (t := t.move f) ht, ranges_move]
    · rw [outcome_closed_of_ne ht, outcome_closed_of_ne (t := t.move f) ht]
      rfl

/-- The value of a field name. -/
theorem fieldOperand_move (name : Token) (ts : List Token) :
    outcome (fieldOperand (name.move f) (ts.map (Token.move f))) =
      moveResult f (moveRead f) (outcome (fieldOperand name ts)) := by
  cases ts with
  | nil => rfl
  | cons v ts =>
    rw [List.map_cons]
    by_cases hv : v.kind.isOperandValue = true
    · rw [outcome_fieldOperand hv, outcome_fieldOperand (v := v.move f) hv, ofField_move, ranges_move]
    · have hv' : (v.move f).kind.isOperandValue ≠ true := hv
      rw [fieldOperand, fieldOperand, if_neg hv, if_neg hv']
      rfl

/-- An operand of moved tokens is the moved operand. -/
def OperandMoves (f : Nat → Nat) (stop : Nat) (ts : List Token) : Prop :=
  outcome (operand (f stop) (ts.map (Token.move f))) =
    moveResult f (moveRead f) (outcome (operand stop ts))

/-- What is read behind an operand is moved, if the operands in front of it are: `wrap'` puts the moved
ones where `wrap` puts the ones as they stand. -/
def LinksMove (f : Nat → Nat) (stop : Nat) (ts : List Token) : Prop :=
  ∀ wrap wrap' left, (∀ q, wrap' (q.move f) = (wrap q).move f) →
    linked (f stop) wrap' (left.move f) (ts.map (Token.move f)) =
      moveResult f (moveRead f) (linked stop wrap left ts)

/-- An expression is an operand and what is read behind it. -/
theorem disjunction_move (ho : OperandMoves f stop ts)
    (hl : ∀ us : List Token, us.length ≤ ts.length → LinksMove f stop us) :
    outcome (disjunction (f stop) (ts.map (Token.move f))) =
      moveResult f (moveRead f) (outcome (disjunction stop ts)) := by
  rw [outcome_disjunction_eq_linked, outcome_disjunction_eq_linked, ho]
  refine moveResult_bind fun p hp => ?_
  obtain ⟨q, rest⟩ := p
  exact hl rest (Nat.le_of_lt (length_lt_of_outcome hp)) id id q fun _ => rfl

/-- At the end there is no operand, moved or not. -/
theorem operandMoves_nil : OperandMoves f stop [] := by
  rw [OperandMoves, List.map_nil, outcome_operand_nil, outcome_operand_nil]
  rfl

/-- The operand at a token moves with it. -/
theorem operandMoves_cons (ho : OperandMoves f stop ts)
    (hl : ∀ us : List Token, us.length ≤ ts.length → LinksMove f stop us) :
    OperandMoves f stop (t :: ts) := by
  rw [OperandMoves, List.map_cons]
  cases hk : t.kind with
  | not =>
    rw [outcome_operand_not hk, outcome_operand_not (t := t.move f) hk, ho]
    exact moveResult_bind fun _ _ => rfl
  | openParen =>
    rw [outcome_operand_openParen hk, outcome_operand_openParen (t := t.move f) hk,
      disjunction_move ho hl]
    exact moveResult_bind fun p _ => closed_move t.position p.1 p.2
  | field =>
    rw [operand, operand]
    simp only [Token.move, hk]
    exact fieldOperand_move t ts
  | word | value =>
    rw [operand, operand]
    simp only [Token.move, hk]
    exact ranges_move (leaf (.term t.value) t.position) ts
  | phrase | quotedValue =>
    rw [operand, operand]
    simp only [Token.move, hk]
    exact ranges_move (leaf (.phrase t.value) t.position) ts
  | property =>
    rw [outcome_operand_property hk, outcome_operand_property (t := t.move f) hk, ofProperty_move,
      ranges_move]
  | and | or | closeParen | range =>
    rw [operand, operand]
    simp only [Token.move, hk]
    rfl

/-- At the end there are no links, moved or not. -/
theorem linksMove_nil : LinksMove f stop [] := by
  intro wrap wrap' left hwrap
  rw [List.map_nil, linked_nil, linked_nil, hwrap]
  rfl

/-- The links at a token move with it. -/
theorem linksMove_cons (ho : OperandMoves f stop ts) (ho' : OperandMoves f stop (t :: ts))
    (hl : ∀ us : List Token, us.length ≤ ts.length → LinksMove f stop us) :
    LinksMove f stop (t :: ts) := by
  intro wrap wrap' left hwrap
  by_cases hb : t.kind.opensOperand = true
  · rw [linked_beside hb, List.map_cons, linked_beside (t := t.move f) hb, ← List.map_cons, ho']
    refine moveResult_bind fun p hp => ?_
    obtain ⟨q, rest⟩ := p
    show linked _ _ ((left.move f).conjoin (q.move f) (f t.position)) _ = _
    rw [conjoin_move]
    exact hl rest (Nat.le_of_lt_succ (length_lt_of_outcome hp)) wrap wrap' _ hwrap
  by_cases ha : t.kind = .and
  · rw [linked_and ha, List.map_cons, linked_and (t := t.move f) ha, ho]
    refine moveResult_bind fun p hp => ?_
    obtain ⟨q, rest⟩ := p
    -- the operand in front of `AND` goes into what is wrapped around the row behind it
    apply hl rest (Nat.le_of_lt (length_lt_of_outcome hp))
    intro right
    show wrap' ((left.move f).joinAnd (right.move f) (f t.position)) = _
    rw [joinAnd_move, hwrap]
  by_cases hor : t.kind = .or
  · rw [linked_or hor, List.map_cons, linked_or (t := t.move f) hor, ho]
    refine moveResult_bind fun p hp => ?_
    obtain ⟨q, rest⟩ := p
    have hrest : linked (f stop) id (q.move f) (rest.map (Token.move f)) =
        moveResult f (moveRead f) (linked stop id q rest) :=
      hl rest (Nat.le_of_lt (length_lt_of_outcome hp)) id id q fun _ => rfl
    show (linked (f stop) id (q.move f) (rest.map (Token.move f)) >>= _) = _
    rw [hrest]
    refine moveResult_bind fun r _ => ?_
    show Except.ok ((wrap' (left.move f)).joinOr (r.1.move f) (f t.position), _) = _
    rw [hwrap, joinOr_move]
    rfl
  · have hb' : t.kind.opensOperand = false := by simpa using hb
    rw [linked_of_not_opens hb' ha hor, List.map_cons,
      linked_of_not_opens (t := t.move f) hb' ha hor, hwrap]
    rfl

/-- Both hold of all token sequences. -/
theorem parsed_moves (ts : List Token) : OperandMoves f stop ts ∧ LinksMove f stop ts := by
  match ts with
  | [] => exact ⟨operandMoves_nil, linksMove_nil⟩
  | t :: ts =>
    have ho := (parsed_moves ts).1
    have hl : ∀ us : List Token, us.length ≤ ts.length → LinksMove f stop us :=
      fun us _ => (parsed_moves us).2
    have ho' := operandMoves_cons (t := t) ho hl
    exact ⟨ho', linksMove_cons ho ho' hl⟩
termination_by ts.length

/-! ## Whole texts -/

/-- Moving does not change whether tokens are left over. -/
theorem whole_move (p : Query × List Token) :
    whole (moveRead f p) = moveResult f (move f) (whole p) := by
  obtain ⟨q, rest⟩ := p
  cases rest with
  | nil => rfl
  | cons t rest =>
    show whole (q.move f, t.move f :: rest.map (Token.move f)) = _
    rw [whole, whole]
    by_cases ht : t.kind = .closeParen
    · have ht' : (t.move f).kind = .closeParen := ht
      rw [if_pos ht, if_pos ht']
      rfl
    · have ht' : (t.move f).kind ≠ .closeParen := ht
      rw [if_neg ht, if_neg ht']
      rfl

/-- **The parser never looks at positions**: moved tokens make up the query with its positions moved,
or are refused for the same fault at the moved place. -/
theorem ofTokens_move (hzero : f 0 = 0) (ts : List Token) :
    ofTokens (ts.map (Token.move f)) (f stop) = moveResult f (move f) (ofTokens ts stop) := by
  cases ts with
  | nil =>
    show Except.error (⟨.emptyQuery, 0⟩ : SyntaxError) = .error ⟨.emptyQuery, f 0⟩
    rw [hzero]
  | cons t ts =>
    have hread : outcome (disjunction (f stop) ((t :: ts).map (Token.move f))) =
        moveResult f (moveRead f) (outcome (disjunction stop (t :: ts))) :=
      disjunction_move (parsed_moves (t :: ts)).1 fun us _ => (parsed_moves us).2
    rw [List.map_cons, ofTokens_cons, ofTokens_cons, ← List.map_cons, hread]
    exact moveResult_bind fun p _ => whole_move p

/-- The token of a negation at the front of a text, written in one way or another. -/
def notToken (lexeme : String) : Token := ⟨.not, "not", lexeme, 0⟩

/-- A negation is read alike however it is written. -/
theorem ofTokens_notToken (lexeme lexeme' : String) (ts : List Token) :
    ofTokens (notToken lexeme :: ts) stop = ofTokens (notToken lexeme' :: ts) stop := by
  have hread : outcome (operand stop (notToken lexeme :: ts)) =
      outcome (operand stop (notToken lexeme' :: ts)) := by
    rw [outcome_operand_not rfl, outcome_operand_not rfl]
    rfl
  rw [ofTokens_cons, ofTokens_cons, outcome_disjunction_eq_linked, outcome_disjunction_eq_linked,
    hread]

end Query

/-! ## Dashes -/

open Lexer

/-- The tokens of a text behind a dash that negates it. -/
theorem scan_dash_append {x : String} (h : dashNegates x.toList = true) :
    Token.scan ("-" ++ x) = Query.notToken "-" :: (Token.scan x).map (Token.shift 1) := by
  have htext : ("-" ++ x).toList = '-' :: x.toList := String.toList_append
  have hchunk : chunk '-' x.toList = ([⟨.not, "not".toList, ['-']⟩], x.toList) := if_pos h
  rw [Token.scan, htext, tokensFrom_chunk (by decide) hchunk, Token.scan, ← tokensFrom_shift]
  rfl

/-- The tokens of a text behind `NOT` and a space. -/
theorem scan_not_append (x : String) :
    Token.scan ("NOT " ++ x) = Query.notToken "NOT" :: (Token.scan x).map (Token.shift 4) := by
  have htext : ("NOT " ++ x).toList = "NOT".toList ++ ' ' :: x.toList := String.toList_append
  have hnot : Token.scan "NOT" = [Query.notToken "NOT"] := by decide +kernel
  rw [Token.scan, htext, IsBareText.tokensFrom_append (by decide), hnot, Token.scan,
    ← tokensFrom_shift]
  rfl

/-- The position that a character behind a dash in front of the text has when `NOT` and a space
stand there instead. -/
def spelledOut : Nat → Nat
  | 0 => 0
  | position + 1 => position + 4

/-- Tokens behind a dash and those behind the word differ by three characters. -/
theorem map_move_spelledOut (ts : List Token) :
    (ts.map (Token.shift 1)).map (Token.move spelledOut) = ts.map (Token.shift 4) := by
  rw [List.map_map]
  apply List.map_congr_left
  intro t _
  show (⟨t.kind, t.value, t.lexeme, spelledOut (1 + t.position)⟩ : Token) = _
  rw [Nat.add_comm 1, spelledOut, Nat.add_comm t.position]
  rfl

namespace Query

/-- A text that a dash negates is parsed behind the dash as it is behind a `NOT`. -/
theorem parse_not_append {x : String} (h : dashNegates x.toList = true) :
    parse ("NOT " ++ x) = moveResult spelledOut (move spelledOut) (parse ("-" ++ x)) := by
  have hstop : ("NOT " ++ x).length = spelledOut ("-" ++ x).length := by
    rw [String.length_append, String.length_append, show "-".length = 1 from rfl, Nat.add_comm 1,
      spelledOut, Nat.add_comm]
    rfl
  rw [parse, parse, ← ofTokens_move rfl, hstop, scan_dash_append h, scan_not_append, List.map_cons,
    map_move_spelledOut]
  exact ofTokens_notToken "NOT" "-" _

/-- **A dash is a `NOT`.**  In front of a text that starts with a character that is no blank, no closing
parenthesis and no dash, a dash gives the same tokens as `NOT` and a space, lexemes and positions
apart, whatever the text holds.  So both texts are parsed as the same query up to positions, or both
are refused, for the same fault and at the same place of the text. -/
theorem parse_dash {x : String} {c : Char} (hx : x.toList.head? = some c)
    (hblank : Text.isBlank c = false) (hclose : c ≠ ')') (hdash : c ≠ '-') :
    (Token.scan ("-" ++ x)).map (fun t => (t.kind, t.value)) =
        (Token.scan ("NOT " ++ x)).map (fun t => (t.kind, t.value)) ∧
      ((∃ p q, parse ("-" ++ x) = .ok p ∧ parse ("NOT " ++ x) = .ok q ∧
          q = p.move spelledOut ∧ q.bare = p.bare) ∨
        ∃ d e, parse ("-" ++ x) = .error d ∧ parse ("NOT " ++ x) = .error e ∧
          e.fault = d.fault ∧ e.position = spelledOut d.position) := by
  have hnegates : dashNegates x.toList = true := by
    obtain ⟨cs, hcs⟩ := List.head?_eq_some_iff.1 hx
    rw [hcs, dashNegates, hblank]
    simp [hclose, hdash]
  constructor
  · rw [scan_dash_append hnegates, scan_not_append, List.map_cons, List.map_cons, List.map_map,
      List.map_map]
    rfl
  · have hparse := parse_not_append hnegates
    cases hp : parse ("-" ++ x) with
    | ok p =>
      rw [hp] at hparse
      exact .inl ⟨p, p.move spelledOut, rfl, hparse, rfl, bare_move p⟩
    | error d =>
      rw [hp] at hparse
      exact .inr ⟨d, d.move spelledOut, rfl, hparse, rfl, rfl⟩

/-- A dash in front of another one negates nothing. -/
example : Token.scan "--a" = [⟨.word, "--a", "--a", 0⟩] := by decide +kernel

/-- A bracket in quotes, a negation in a group, and a range whose end is not closed. -/
theorem parse_dash_group :
    let x := "[k:\"a]\"] (-b OR deadline:2024..\"x"
    x.toList.head? = some '[' ∧ Text.isBlank '[' = false ∧ '[' ≠ ')' ∧ '[' ≠ '-' ∧
      (Token.scan ("-" ++ x)).map (fun t => (t.kind, t.value)) =
        (Token.scan ("NOT " ++ x)).map (fun t => (t.kind, t.value)) ∧
      ((∃ p q, parse ("-" ++ x) = .ok p ∧ parse ("NOT " ++ x) = .ok q ∧
          q = p.move spelledOut ∧ q.bare = p.bare) ∨
        ∃ d e, parse ("-" ++ x) = .error d ∧ parse ("NOT " ++ x) = .error e ∧
          e.fault = d.fault ∧ e.position = spelledOut d.position) := by
  intro x
  have hx : x.toList.head? = some '[' := by decide
  have hblank : Text.isBlank '[' = false := by decide
  have hclose : '[' ≠ ')' := by decide
  have hdash : '[' ≠ '-' := by decide
  exact ⟨hx, hblank, hclose, hdash, parse_dash hx hblank hclose hdash⟩

end Query

end TaskQuery
