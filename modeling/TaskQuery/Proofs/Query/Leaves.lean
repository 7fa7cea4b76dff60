import Mathlib
import TaskQuery.Proofs.Query.Branching
import TaskQuery.Proofs.Token.Tiling

/-!
# The leaves of a parsed query

The parser loses nothing of a text and invents nothing: the leaves of the query are the units of the
text in their order, and its negations are the tokens `NOT`.

* `Query.marks`: the leaves and negations of a query from left to right, with their positions.
* `Token.marksFrom`: the units and the `NOT`s of a token sequence.  A word or a phrase is a unit of
  its own unless a field name or `..` in front takes it for a value.
* `marks_gather`: a row of operands has the marks of its operands in order, however `AND`, `OR` and
  juxtaposition group them.
* `Operand.marks_append`, `Expression.marks_append`, `Links.marks_append`: tokens that derive a tree
  have the marks of its query.
* `leaves_of_parse`: so does a text that is parsed.
-/

namespace TaskQuery

/-- What a query is made of, its joints apart. -/
inductive Mark where
  /-- A leaf and the position at which it is written. -/
  | test (l : Leaf) (position : Nat)
  /-- A negation, at the position of its `NOT`. -/
  | negation (position : Nat)
  deriving DecidableEq

namespace Mark

/-- The position at which it is written. -/
def position : Mark → Nat
  | test _ p | negation p => p

/-- The leaf and its position. -/
def test? : Mark → Option (Leaf × Nat)
  | test l p => some (l, p)
  | negation _ => none

/-- The position of the negation. -/
def negation? : Mark → Option Nat
  | test _ _ => none
  | negation p => some p

/-- The test of a mark stands where the mark does. -/
theorem position_of_test? {m : Mark} {leaf : Leaf × Nat} (h : m.test? = some leaf) :
    leaf.2 = m.position := by
  cases m with
  | test l p =>
    obtain rfl := Option.some.inj h
    rfl
  | negation p => cases h

/-- The negation of a mark stands where the mark does. -/
theorem position_of_negation? {m : Mark} {p : Nat} (h : m.negation? = some p) : p = m.position := by
  cases m with
  | test l p => cases h
  | negation p =>
    obtain rfl := Option.some.inj h
    rfl

end Mark

/-! ## Marks of a query -/

mutual

/-- The leaves and negations of a query from left to right, a negation before its operand. -/
def Query.marks : Query → List Mark
  | .leaf l p => [.test l p]
  | .and qs _ => Query.marksOfAll qs
  | .or qs _ => Query.marksOfAll qs
  | .not q p => .negation p :: q.marks

/-- The marks of several queries. -/
def Query.marksOfAll : List Query → List Mark
  | [] => []
  | q :: qs => q.marks ++ Query.marksOfAll qs

end

namespace Query

/-- The leaves of a query from left to right, with their positions. -/
def leaves (q : Query) : List (Leaf × Nat) := q.marks.filterMap Mark.test?

/-- The positions of the negations of a query from left to right. -/
def negations (q : Query) : List Nat := q.marks.filterMap Mark.negation?

/-- The marks of operands are those of each in turn. -/
theorem marksOfAll_eq_flatMap (qs : List Query) : marksOfAll qs = qs.flatMap marks := by
  induction qs with
  | nil => rfl
  | cons q qs ih => rw [marksOfAll, ih, List.flatMap_cons]

/-- A conjunction has the marks of its operands. -/
@[simp] theorem marks_and (qs : List Query) (p : Nat) : (and qs p).marks = qs.flatMap marks := by
  rw [marks, marksOfAll_eq_flatMap]

/-- A disjunction has the marks of its operands. -/
@[simp] theorem marks_or (qs : List Query) (p : Nat) : (or qs p).marks = qs.flatMap marks := by
  rw [marks, marksOfAll_eq_flatMap]

/-! ## The builders keep them -/

/-- A query has the marks of its conjuncts. -/
theorem flatMap_marks_conjuncts (q : Query) : q.conjuncts.flatMap marks = q.marks := by
  cases q <;> simp [conjuncts]

/-- A query has the marks of its disjuncts. -/
theorem flatMap_marks_disjuncts (q : Query) : q.disjuncts.flatMap marks = q.marks := by
  cases q <;> simp [disjuncts]

/-- Queries joined by `AND` have the marks of both, in order. -/
theorem marks_joinAnd (left right : Query) (p : Nat) :
    (left.joinAnd right p).marks = left.marks ++ right.marks := by
  rw [joinAnd, marks_and, List.flatMap_append, flatMap_marks_conjuncts, flatMap_marks_conjuncts]

/-- Queries joined by `OR` have the marks of both, in order. -/
theorem marks_joinOr (left right : Query) (p : Nat) :
    (left.joinOr right p).marks = left.marks ++ right.marks := by
  rw [joinOr, marks_or, List.flatMap_append, flatMap_marks_disjuncts, flatMap_marks_disjuncts]

/-- A conjunction of two queries has the marks of both, in order. -/
theorem marks_conjoin (left right : Query) (p : Nat) :
    (left.conjoin right p).marks = left.marks ++ right.marks := by
  cases left <;> simp [conjoin]

/-- **A row has the marks of its operands in order**: `before` are the marks of what `wrap` puts in
front. -/
theorem marks_gather {wrap : Query → Query} {before : List Mark}
    (hwrap : ∀ q : Query, (wrap q).marks = before ++ q.marks) (left : Query)
    (row : List (Joined Query)) :
    (gather wrap left row).marks = before ++ (left.marks ++ row.flatMap fun j => j.item.marks) := by
  induction row generalizing wrap before left with
  | nil => rw [gather, hwrap, List.flatMap_nil, List.append_nil]
  | cons j row ih =>
    obtain ⟨joint, p, q⟩ := j
    rw [List.flatMap_cons]
    cases joint with
    | beside => rw [gather, ih hwrap, marks_conjoin, List.append_assoc]
    | and =>
      have hjoined : ∀ r : Query,
          (wrap (left.joinAnd r p)).marks = (before ++ left.marks) ++ r.marks := by
        intro r
        rw [hwrap, marks_joinAnd, List.append_assoc]
      rw [gather, ih hjoined, List.append_assoc]
    | or =>
      have hright : (gather id q row).marks = [] ++ (q.marks ++ row.flatMap fun j => j.item.marks) :=
        ih (fun r => rfl) q
      rw [gather, marks_joinOr, hwrap, hright, List.nil_append, List.append_assoc]

end Query

/-! ## Marks of tokens -/

namespace Token

variable {t v : Token} {ts : List Token}

/-- A field name and the dots of a range take the token behind them for a value. -/
def Kind.takesValue : Kind → Bool
  | field | range => true
  | _ => false

/-- What a field name, its value and the tokens behind them ask for: a range when `..` follows. -/
def fieldTest (f v : Token) (behind : List Token) : Leaf :=
  match behind with
  | r :: w :: _ =>
    if r.kind = .range then
      .range (Text.lowerString f.value) v.value w.value v.kind.isQuoted w.kind.isQuoted
    else .field (Text.lowerString f.value) v.value v.kind.isQuoted
  | _ => .field (Text.lowerString f.value) v.value v.kind.isQuoted

/-- What a property asks for.  A colon without a value after it counts as no colon. -/
def propertyTest (t : Token) : Leaf :=
  let (key, value) := Property.split t.lexeme.toList.tail.dropLast
  .property
    (if Leaf.propertyValue? t.value = some "" then Leaf.propertyKey t.value else t.value)
    (Property.isQuoted key || value.any Property.isQuoted)

/-- A property token is read as its test. -/
theorem ofProperty_eq (t : Token) : Query.ofProperty t = .leaf t.propertyTest t.position := rfl

/-- What starts at a token: a unit, a negation, or nothing.  `taken` is whether the token in front
takes it for a value. -/
def mark? (taken : Bool) (t : Token) (behind : List Token) : Option Mark :=
  match t.kind with
  | .word => if taken then none else some (.test (.term t.value) t.position)
  | .phrase => if taken then none else some (.test (.phrase t.value) t.position)
  | .property => some (.test t.propertyTest t.position)
  | .field => behind.head?.map fun v => .test (t.fieldTest v behind.tail) t.position
  | .not => some (.negation t.position)
  | _ => none

/-- The units and negations of a token sequence; `taken` is whether the first token is a value. -/
def marksFrom (taken : Bool) : List Token → List Mark
  | [] => []
  | t :: ts => (mark? taken t ts).toList ++ marksFrom t.kind.takesValue ts

/-- The units of a token sequence, each with the position of its first token: words and phrases that
are no values, properties, fields with their value, and fields with a range. -/
def units (ts : List Token) : List (Leaf × Nat) := (marksFrom false ts).filterMap Mark.test?

/-- A mark stands where its token does. -/
theorem position_of_mark? {taken : Bool} {behind : List Token} {m : Mark}
    (h : mark? taken t behind = some m) : m.position = t.position := by
  unfold mark? at h
  split at h
  case h_4 =>
    obtain ⟨v, -, rfl⟩ := Option.map_eq_some_iff.1 h
    rfl
  case h_6 => cases h
  case h_3 | h_5 =>
    obtain rfl := Option.some.inj h
    rfl
  all_goals
    split at h
    · cases h
    · obtain rfl := Option.some.inj h
      rfl

/-- The marks stand at different tokens, in order. -/
theorem positions_marksFrom (taken : Bool) (ts : List Token) :
    ((marksFrom taken ts).map Mark.position).Sublist (ts.map Token.position) := by
  induction ts generalizing taken with
  | nil => exact List.nil_sublist _
  | cons t ts ih =>
    rw [marksFrom, List.map_append, List.map_cons]
    cases hm : mark? taken t ts with
    | none => exact (ih _).cons t.position
    | some m =>
      rw [Option.toList_some, List.map_singleton, position_of_mark? hm, List.singleton_append]
      exact (ih _).cons_cons t.position

/-- The negations are the tokens `NOT`, wherever they stand. -/
theorem negations_marksFrom (taken : Bool) (ts : List Token) :
    (marksFrom taken ts).filterMap Mark.negation? =
      (ts.filter fun t => t.kind = .not).map Token.position := by
  induction ts generalizing taken with
  | nil => rfl
  | cons t ts ih =>
    rw [marksFrom, List.filterMap_append, ih, List.filter_cons]
    by_cases hnot : t.kind = .not
    · have hmark : mark? taken t ts = some (.negation t.position) := by
        rw [mark?, hnot]
      rw [hmark, if_pos (by simpa using hnot)]
      rfl
    · have hnone : (mark? taken t ts).toList.filterMap Mark.negation? = [] := by
        unfold mark?
        split
        case h_4 => cases ts <;> rfl
        case h_5 hk => exact absurd hk hnot
        case h_3 | h_6 => rfl
        all_goals cases taken <;> rfl
      rw [hnone, if_neg (by simpa using hnot), List.nil_append]

/-! ## One unit at a time -/

/-- A value has no mark of its own. -/
theorem marksFrom_value (hv : v.kind.isOperandValue = true) (ts : List Token) :
    marksFrom true (v :: ts) = marksFrom false ts := by
  cases hk : v.kind with
  | word | phrase | value | quotedValue => simp [marksFrom, mark?, hk, Kind.takesValue]
  | _ => simp [hk, Kind.isOperandValue] at hv

/-- Without a range mark behind it, a field is read with its value. -/
theorem fieldTest_of_noRange (h : Query.NoRange ts) (f v : Token) :
    fieldTest f v ts = .field (Text.lowerString f.value) v.value v.kind.isQuoted := by
  unfold fieldTest
  split
  · next r w us => rw [if_neg (h r rfl)]
  · rfl

/-- A field with its value. -/
theorem marksFrom_field {f : Token} (hf : f.kind = .field) (hv : v.kind.isOperandValue = true)
    (ts : List Token) :
    marksFrom false (f :: v :: ts) =
      .test (fieldTest f v ts) f.position :: marksFrom false ts := by
  rw [marksFrom, mark?, hf]
  show _ :: marksFrom true (v :: ts) = _
  rw [marksFrom_value hv]
  rfl

/-- A token that is no unit and takes no value. -/
theorem marksFrom_other (hmark : mark? false t ts = none) (hvalue : t.kind.takesValue = false) :
    marksFrom false (t :: ts) = marksFrom false ts := by
  rw [marksFrom, hmark, hvalue]
  rfl

end Token

/-! ## Tokens and trees -/

open Token Query

mutual

/-- The tokens of an operand have the marks of its query. -/
theorem Operand.marks_append {us rest : List Token} {o : Operand} (h : Operand.Reads us o)
    (hrest : NoRange rest) :
    marksFrom false (us ++ rest) = o.query.marks ++ marksFrom false rest := by
  match h with
  | .negated ht ho =>
    rw [List.cons_append, marksFrom, mark?, ht, Operand.query, Query.marks]
    show _ :: marksFrom false _ = _
    rw [Operand.marks_append ho hrest]
    rfl
  | .group (l := l) (r := r) hl he hr =>
    have hcloses : Closes (r :: rest) := by
      intro t ht
      obtain rfl : r = t := by simpa using ht
      exact hr
    have hopen : ∀ ts, marksFrom false (l :: ts) = marksFrom false ts :=
      fun ts => marksFrom_other (by rw [mark?, hl]) (by rw [hl]; rfl)
    have hclose : marksFrom false (r :: rest) = marksFrom false rest :=
      marksFrom_other (by rw [mark?, hr]) (by rw [hr]; rfl)
    rw [List.cons_append, List.append_assoc, List.singleton_append, hopen,
      Expression.marks_append he hcloses, hclose]
    rfl
  | .word ht =>
    rw [List.singleton_append, marksFrom, mark?, ht]
    rfl
  | .phrase ht =>
    rw [List.singleton_append, marksFrom, mark?, ht]
    rfl
  | .property ht hl =>
    rw [ofProperty_eq, Query.leaf.injEq] at hl
    rw [List.singleton_append, marksFrom, mark?, ht, ← hl.1]
    rfl
  | .field hf hv =>
    rw [List.cons_append, List.singleton_append, marksFrom_field hf hv, fieldTest_of_noRange hrest]
    rfl
  | .range (r := r) hf hv hr hw hd =>
    have hdots : ∀ ts, marksFrom false (r :: ts) = marksFrom true ts := by
      intro ts
      rw [marksFrom, mark?, hr]
      rfl
    simp only [List.cons_append, List.nil_append]
    rw [marksFrom_field hf hv, hdots, marksFrom_value hw, fieldTest, if_pos hr]
    rfl

/-- The tokens of an expression have the marks of its query. -/
theorem Expression.marks_append {us rest : List Token} {e : Expression} (h : Expression.Reads us e)
    (hrest : Closes rest) :
    marksFrom false (us ++ rest) = e.query.marks ++ marksFrom false rest := by
  match h with
  | @Expression.Reads.row _ _ o l ho hl =>
    have hquery : (gather id o.query l.queries).marks =
        [] ++ (o.query.marks ++ l.queries.flatMap fun j => j.item.marks) :=
      marks_gather (fun q => rfl) _ _
    rw [List.append_assoc, Operand.marks_append ho (noRange_links hl hrest),
      Links.marks_append hl hrest, Expression.query, hquery, List.nil_append, List.append_assoc]

/-- The tokens of the operands after the first one have the marks of their queries. -/
theorem Links.marks_append {us rest : List Token} {l : Links} (h : Links.Reads us l)
    (hrest : Closes rest) :
    marksFrom false (us ++ rest) =
      (l.queries.flatMap fun j => j.item.marks) ++ marksFrom false rest := by
  match h with
  | .nil => rfl
  | .beside ho hl =>
    rw [List.cons_append, List.append_assoc, ← List.cons_append,
      Operand.marks_append ho (noRange_links hl hrest), Links.marks_append hl hrest,
      Links.queries, List.flatMap_cons, List.append_assoc]
  | @Links.Reads.written t ts vs j _ _ hj ho hl =>
    have hjoint : ∀ us, marksFrom false (t :: us) = marksFrom false us := by
      intro us
      have hkind : t.kind = .and ∨ t.kind = .or := by
        cases j with
        | beside => cases hj
        | and => exact .inl (Option.some.inj hj).symm
        | or => exact .inr (Option.some.inj hj).symm
      rcases hkind with hk | hk
      · exact marksFrom_other (by rw [mark?, hk]) (by rw [hk]; rfl)
      · exact marksFrom_other (by rw [mark?, hk]) (by rw [hk]; rfl)
    rw [List.cons_append, hjoint, List.append_assoc,
      Operand.marks_append ho (noRange_links hl hrest), Links.marks_append hl hrest,
      Links.queries, List.flatMap_cons, List.append_assoc]

end

/-! ## Texts -/

namespace Query

/-- The marks of a text are those of the query that it writes. -/
theorem marks_of_parse {text : String} {q : Query} (h : parse text = .ok q) :
    q.marks = marksFrom false (Token.scan text) := by
  obtain ⟨e, he, rfl⟩ := parse_eq_ok_iff.1 h
  have hnil : Closes [] := fun t ht => by simp at ht
  have hmarks := Expression.marks_append he hnil
  rw [List.append_nil] at hmarks
  rw [hmarks, marksFrom, List.append_nil]

/-- They stand at increasing positions. -/
theorem pairwise_marksFrom_scan (text : String) :
    (marksFrom false (Token.scan text)).Pairwise fun m n => m.position < n.position := by
  have htiles : Tiles 0 text.toList (Token.scan text) := Lexer.tiles_tokensFrom 0 text.toList
  have hpositions : ((Token.scan text).map Token.position).Pairwise (· < ·) :=
    List.pairwise_map.2 (htiles.pairwise.imp And.left)
  exact List.pairwise_map.1 (hpositions.sublist (positions_marksFrom false _))

/-- **Parsing loses nothing and invents nothing.**  From left to right, the leaves of the query that
a text writes are the units of its tokens, each once and at the position of its first token, and its
negations are the tokens `NOT`; the positions of both increase.  A conjunction and a disjunction
have two operands or more. -/
theorem leaves_of_parse {text : String} {q : Query} (h : parse text = .ok q) :
    q.leaves = Token.units (Token.scan text) ∧
      (q.leaves.Pairwise fun l m => l.2 < m.2) ∧
      q.negations = ((Token.scan text).filter fun t => t.kind = .not).map Token.position ∧
      q.negations.Pairwise (· < ·) ∧
      q.IsBranching := by
  have hmarks := marks_of_parse h
  have hpairwise := pairwise_marksFrom_scan text
  rw [← hmarks] at hpairwise
  refine ⟨?_, ?_, ?_, ?_, isBranching_of_parse h⟩
  · rw [leaves, hmarks, Token.units]
  · refine hpairwise.filterMap Mark.test? fun m n hlt l hl l' hl' => ?_
    rw [Mark.position_of_test? hl, Mark.position_of_test? hl']
    exact hlt
  · rw [negations, hmarks, Token.negations_marksFrom]
  · refine hpairwise.filterMap Mark.negation? fun m n hlt p hp p' hp' => ?_
    rw [Mark.position_of_negation? hp, Mark.position_of_negation? hp']
    exact hlt

/-- A negated group and a negated property beside a word. -/
theorem leaves_of_parse_nested :
    let text := "a NOT (\"b c\" OR Scheduled:2024..now) -[k:v]"
    Token.units (Token.scan text) =
        [(.term "a", 0), (.phrase "b c", 7), (.range "scheduled" "2024" "now" false false, 16),
          (.property "k:v" false, 38)] ∧
      ((Token.scan text).filter fun t => t.kind = .not).map Token.position = [2, 37] := by
  intro text
  let group : Query :=
    .or [.leaf (.phrase "b c") 7, .leaf (.range "scheduled" "2024" "now" false false) 16] 13
  let q : Query :=
    .and [.leaf (.term "a") 0, .not group 2, .not (.leaf (.property "k:v" false) 38) 37] 2
  have hscan : Token.scan text =
      [⟨.word, "a", "a", 0⟩, ⟨.not, "not", "NOT", 2⟩, ⟨.openParen, "(", "(", 6⟩,
        ⟨.phrase, "b c", "\"b c\"", 7⟩, ⟨.or, "or", "OR", 13⟩,
        ⟨.field, "Scheduled", "Scheduled:", 16⟩, ⟨.value, "2024", "2024", 26⟩,
        ⟨.range, "..", "..", 30⟩, ⟨.word, "now", "now", 32⟩, ⟨.closeParen, ")", ")", 35⟩,
        ⟨.not, "not", "-", 37⟩, ⟨.property, "k:v", "[k:v]", 38⟩] := by
    decide +kernel
  have hparse : parse text = .ok q := by
    rw [parse, hscan]
    cbv
  obtain ⟨hleaves, -, hnegations, -⟩ := leaves_of_parse hparse
  rw [← hleaves, ← hnegations]
  decide

end Query

end TaskQuery
