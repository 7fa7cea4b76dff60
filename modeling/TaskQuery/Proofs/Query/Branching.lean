import TaskQuery.Proofs.Match.Formula
import TaskQuery.Proofs.Query.Derivation

/-!
# Parsed queries branch

The parser builds no conjunction and no disjunction of fewer than two operands: each of its builders
takes at least one operand from either side.

* `Query.IsBranching`: the nodes have two operands or more.
* `isBranching_conjoin`, `isBranching_joinAnd`, `isBranching_joinOr`: the builders.
* `isBranching_gather`: the query of a row.
* `isBranching_of_parse`: so every query that a text writes branches.
-/

namespace TaskQuery

namespace Query

/-- Every conjunction and every disjunction has at least two operands. -/
inductive IsBranching : Query → Prop where
  | leaf (l : Leaf) (p : Nat) : IsBranching (.leaf l p)
  | and {qs : List Query} (h : 2 ≤ qs.length) (hs : ∀ q ∈ qs, IsBranching q) (p : Nat) :
      IsBranching (.and qs p)
  | or {qs : List Query} (h : 2 ≤ qs.length) (hs : ∀ q ∈ qs, IsBranching q) (p : Nat) :
      IsBranching (.or qs p)
  | not {q : Query} (h : IsBranching q) (p : Nat) : IsBranching (.not q p)

variable {q left right : Query}

/-- A node with two operands is not empty. -/
theorem IsBranching.isFilled (h : q.IsBranching) : q.IsFilled := by
  induction h with
  | leaf l p => exact .leaf l p
  | and h _ p ih => exact .and (List.ne_nil_of_length_pos (by omega)) ih p
  | or h _ p ih => exact .or (List.ne_nil_of_length_pos (by omega)) ih p
  | not _ p ih => exact .not ih p

/-! ## The builders -/

/-- The conjuncts of a branching query are branching, and there is one. -/
theorem IsBranching.forall_conjuncts (h : q.IsBranching) :
    0 < q.conjuncts.length ∧ ∀ r ∈ q.conjuncts, r.IsBranching := by
  have hsingle : q.IsBranching → 0 < [q].length ∧ ∀ r ∈ [q], r.IsBranching :=
    fun h => ⟨Nat.one_pos, List.forall_mem_singleton.2 h⟩
  cases h with
  | and hlength hs => exact ⟨Nat.lt_of_lt_of_le Nat.two_pos hlength, hs⟩
  | leaf l p => exact hsingle (.leaf l p)
  | or hlength hs p => exact hsingle (.or hlength hs p)
  | not hq p => exact hsingle (.not hq p)

/-- The disjuncts of a branching query are branching, and there is one. -/
theorem IsBranching.forall_disjuncts (h : q.IsBranching) :
    0 < q.disjuncts.length ∧ ∀ r ∈ q.disjuncts, r.IsBranching := by
  have hsingle : q.IsBranching → 0 < [q].length ∧ ∀ r ∈ [q], r.IsBranching :=
    fun h => ⟨Nat.one_pos, List.forall_mem_singleton.2 h⟩
  cases h with
  | or hlength hs => exact ⟨Nat.lt_of_lt_of_le Nat.two_pos hlength, hs⟩
  | leaf l p => exact hsingle (.leaf l p)
  | and hlength hs p => exact hsingle (.and hlength hs p)
  | not hq p => exact hsingle (.not hq p)

/-- Branching queries joined by `AND` are branching. -/
theorem isBranching_joinAnd (hl : left.IsBranching) (hr : right.IsBranching) (p : Nat) :
    (left.joinAnd right p).IsBranching := by
  obtain ⟨hleft, hl⟩ := hl.forall_conjuncts
  obtain ⟨hright, hr⟩ := hr.forall_conjuncts
  refine .and ?_ (List.forall_mem_append.2 ⟨hl, hr⟩) p
  rw [List.length_append]
  omega

/-- Branching queries joined by `OR` are branching. -/
theorem isBranching_joinOr (hl : left.IsBranching) (hr : right.IsBranching) (p : Nat) :
    (left.joinOr right p).IsBranching := by
  obtain ⟨hleft, hl⟩ := hl.forall_disjuncts
  obtain ⟨hright, hr⟩ := hr.forall_disjuncts
  refine .or ?_ (List.forall_mem_append.2 ⟨hl, hr⟩) p
  rw [List.length_append]
  omega

/-- Operands side by side are gathered as with `AND`, but what stands on the right stays whole. -/
theorem isBranching_conjoin (hl : left.IsBranching) (hr : right.IsBranching) (p : Nat) :
    (left.conjoin right p).IsBranching := by
  have htwo : 2 ≤ [left, right].length := Nat.le_refl 2
  have hpair : (and [left, right] p).IsBranching :=
    .and htwo (List.forall_mem_cons.2 ⟨hl, List.forall_mem_singleton.2 hr⟩) p
  cases hl with
  | and hlength hs p' =>
    refine .and ?_ (List.forall_mem_append.2 ⟨hs, List.forall_mem_singleton.2 hr⟩) p'
    rw [List.length_append]
    omega
  | leaf | or | not => exact hpair

/-! ## Rows and trees -/

/-- The query of a row branches when its operands do, and `wrap` keeps it so. -/
theorem isBranching_gather {wrap : Query → Query} (row : List (Joined Query))
    (hrow : ∀ j ∈ row, j.item.IsBranching) (hw : ∀ q : Query, q.IsBranching → (wrap q).IsBranching)
    (hl : left.IsBranching) : (gather wrap left row).IsBranching := by
  induction row generalizing wrap left with
  | nil => exact hw left hl
  | cons j row ih =>
    obtain ⟨joint, p, q⟩ := j
    obtain ⟨hq, hrest⟩ := List.forall_mem_cons.1 hrow
    cases joint with
    | beside => exact ih hrest hw (isBranching_conjoin hl hq p)
    | and => exact ih hrest (fun r hr => hw _ (isBranching_joinAnd hl hr p)) hq
    | or => exact isBranching_joinOr (hw left hl) (ih hrest (fun r hr => hr) hq) p

end Query

mutual

/-- An operand is read as a branching query. -/
theorem Operand.isBranching_query (o : Operand) : o.query.IsBranching := by
  cases o with
  | test l position => exact .leaf l position
  | negated o position => exact .not o.isBranching_query position
  | group e => exact e.isBranching_query

/-- An expression is read as a branching query. -/
theorem Expression.isBranching_query (e : Expression) : e.query.IsBranching := by
  cases e with
  | row first rest =>
    exact Query.isBranching_gather rest.queries rest.isBranching_queries (fun q hq => hq)
      first.isBranching_query

/-- The operands of links are read as branching queries. -/
theorem Links.isBranching_queries (l : Links) : ∀ j ∈ l.queries, j.item.IsBranching := by
  cases l with
  | nil => exact fun j hj => absurd hj List.not_mem_nil
  | cons joint position o rest =>
    exact List.forall_mem_cons.2 ⟨o.isBranching_query, rest.isBranching_queries⟩

end

namespace Query

/-- **Every query that a text writes has two operands or more in all its nodes.** -/
theorem isBranching_of_parse {text : String} {q : Query} (h : parse text = .ok q) :
    q.IsBranching := by
  obtain ⟨e, -, rfl⟩ := parse_eq_ok_iff.1 h
  exact e.isBranching_query

/-- Every node of what is parsed has operands. -/
theorem isFilled_of_parse {text : String} {q : Query} (h : parse text = .ok q) : q.IsFilled :=
  (isBranching_of_parse h).isFilled

end Query

end TaskQuery
