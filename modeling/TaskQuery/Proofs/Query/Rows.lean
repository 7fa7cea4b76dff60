import TaskQuery.Proofs.Query.Grammar
import TaskQuery.Proofs.Query.Writing

/-!
# Reading a row of operands up to positions

What a query is read as when its operands are read one by one.

* `conjuncts_gather`: a row without `OR` is the conjunction of its operands.
* `gather_append_or`: an `OR` behind such a row makes a disjunction with what follows.
* `ReadsOperand`, `ReadsRow`, `ReadsExpression`: tokens are read as a query, positions apart, and in
  which of the three places of the grammar.
* `ReadsOperand.rowAnd`, `ReadsRow.expressionOr`: operands make up a conjunction, and rows make up a
  disjunction.
-/

namespace TaskQuery

/-! ## Rows -/

namespace Query

/-- A conjunction has the conjuncts of the first query and the second one. -/
theorem conjuncts_conjoin (left right : Query) (p : Nat) :
    (left.conjoin right p).conjuncts = left.conjuncts ++ [right] := by
  cases left <;> rfl

/-- What is no conjunction is its only conjunct. -/
theorem conjuncts_of_not_isAnd {q : Query} (h : q.isAnd = false) : q.conjuncts = [q] := by
  cases q with
  | and qs p => simp [isAnd] at h
  | _ => rfl

/-- What is no disjunction is its only disjunct. -/
theorem disjuncts_of_not_isOr {q : Query} (h : q.isOr = false) : q.disjuncts = [q] := by
  cases q with
  | or qs p => simp [isOr] at h
  | _ => rfl

/-- A row without `OR` makes up a conjunction of its operands: `before` are the operands in front
of the left one. -/
theorem conjuncts_gather (row : List (Joined Query))
    (hrow : ∀ j ∈ row, j.joint ≠ .or ∧ j.item.isAnd = false) {before : List Query}
    {wrap : Query → Query} (hw : ∀ right, (wrap right).conjuncts = before ++ right.conjuncts)
    (left : Query) :
    (gather wrap left row).conjuncts = before ++ left.conjuncts ++ row.map (·.item) := by
  induction row generalizing before wrap left with
  | nil => simp [gather, hw]
  | cons j row ih =>
    obtain ⟨joint, p, q⟩ := j
    obtain ⟨⟨hjoint, hq⟩, hrest⟩ := List.forall_mem_cons.1 hrow
    cases joint with
    | beside =>
      rw [gather, ih hrest hw, conjuncts_conjoin]
      simp
    | and =>
      have hwrap : ∀ right, (wrap (left.joinAnd right p)).conjuncts =
          before ++ left.conjuncts ++ right.conjuncts := by
        intro right
        rw [hw, joinAnd, conjuncts, List.append_assoc]
      rw [gather, ih hrest hwrap, conjuncts_of_not_isAnd hq]
      simp
    | or => exact absurd rfl hjoint

/-- An `OR` behind a row without one makes up a disjunction. -/
theorem gather_append_or (row : List (Joined Query)) (hrow : ∀ j ∈ row, j.joint ≠ .or)
    (wrap : Query → Query) (left q : Query) (p : Nat) (rest : List (Joined Query)) :
    gather wrap left (row ++ ⟨.or, p, q⟩ :: rest) =
      (gather wrap left row).joinOr (gather id q rest) p := by
  induction row generalizing wrap left with
  | nil => rfl
  | cons j row ih =>
    obtain ⟨joint, p', q'⟩ := j
    obtain ⟨hjoint, hrest⟩ := List.forall_mem_cons.1 hrow
    cases joint with
    | beside => exact ih hrest wrap _
    | and => exact ih hrest _ q'
    | or => exact absurd rfl hjoint

/-! ## Positions -/

/-- Positions do not make a conjunction. -/
theorem isAnd_bare (q : Query) : q.bare.isAnd = q.isAnd := by cases q <;> rfl

/-- Positions do not make a disjunction. -/
theorem isOr_bare (q : Query) : q.bare.isOr = q.isOr := by cases q <;> rfl

/-- The disjuncts do not depend on positions. -/
theorem map_bare_disjuncts (q : Query) : q.disjuncts.map bare = q.bare.disjuncts := by
  cases q with
  | or qs p => rw [disjuncts, bare, bareAll_eq_map, disjuncts]
  | _ => rfl

/-- What is no disjunction up to positions has one disjunct. -/
theorem map_bare_disjuncts_of_bare_eq {q q' : Query} (h : q'.bare = q.bare) (hor : q.isOr = false) :
    q'.disjuncts.map bare = [q.bare] := by
  have hor' : q.bare.isOr = false := (isOr_bare q).trans hor
  rw [map_bare_disjuncts, h, disjuncts_of_not_isOr hor']

/-- A query with two conjuncts at least is their conjunction. -/
theorem bare_eq_and {q : Query} {qs : List Query} (h : q.conjuncts.map bare = qs.map bare)
    (hlen : 2 ≤ qs.length) : q.bare = and (qs.map bare) 0 := by
  have hlength := congrArg List.length h
  rw [List.length_map, List.length_map] at hlength
  cases q with
  | and qs' p => rw [bare, bareAll_eq_map, ← h, conjuncts]
  | _ =>
    simp only [conjuncts, List.length_singleton] at hlength
    omega

/-- A query with two disjuncts at least is their disjunction. -/
theorem bare_eq_or {q : Query} {qs : List Query} (h : q.disjuncts.map bare = qs.map bare)
    (hlen : 2 ≤ qs.length) : q.bare = or (qs.map bare) 0 := by
  have hlength := congrArg List.length h
  rw [List.length_map, List.length_map] at hlength
  cases q with
  | or qs' p => rw [bare, bareAll_eq_map, ← h, disjuncts]
  | _ =>
    simp only [disjuncts, List.length_singleton] at hlength
    omega

end Query

/-! ## Reading a query up to positions -/

/-- Two runs of operands, one behind the other. -/
def Links.append : Links → Links → Links
  | .nil, l => l
  | .cons joint position o rest, l => .cons joint position o (rest.append l)

/-- Links behind links have the queries of both. -/
theorem Links.queries_append (k l : Links) : (k.append l).queries = k.queries ++ l.queries := by
  match k with
  | .nil => rfl
  | .cons joint position o rest =>
    rw [append, queries, queries, queries_append rest l, List.cons_append]

/-- Links behind links are read one after the other. -/
theorem Links.Reads.append {ts us : List Token} {k l : Links} (hk : Links.Reads ts k)
    (hl : Links.Reads us l) : Links.Reads (ts ++ us) (k.append l) := by
  match hk with
  | .nil => exact hl
  | .beside ho hs =>
    rw [List.cons_append, List.append_assoc]
    exact .beside ho (hs.append hl)
  | .written hj ho hs =>
    rw [List.cons_append, List.append_assoc]
    exact .written hj ho (hs.append hl)

namespace Query

/-- The tokens are read as an operand that is the query, positions apart. -/
def ReadsOperand (ts : List Token) (q : Query) : Prop :=
  ∃ o, Operand.Reads ts o ∧ o.query.bare = q.bare

/-- The tokens are read as an expression that is the query, positions apart. -/
def ReadsExpression (ts : List Token) (q : Query) : Prop :=
  ∃ e, Expression.Reads ts e ∧ e.query.bare = q.bare

/-- The tokens are read as a row without `OR` that is the query, positions apart. -/
def ReadsRow (ts : List Token) (q : Query) : Prop :=
  ∃ us vs o l, ts = us ++ vs ∧ Operand.Reads us o ∧ Links.Reads vs l ∧
    (∀ j ∈ l.queries, j.joint ≠ .or) ∧ (gather id o.query l.queries).bare = q.bare

/-- The tokens are read as further operands of a conjunction. -/
def ReadsConjuncts (ts : List Token) (qs : List Query) : Prop :=
  ∃ l, Links.Reads ts l ∧ (∀ j ∈ l.queries, j.joint ≠ .or) ∧
    (l.queries.map (·.item)).map bare = qs.map bare

/-- The tokens are read as further operands of a disjunction: behind a row without `OR` they are
more disjuncts. -/
def ReadsDisjuncts (ts : List Token) (qs : List Query) : Prop :=
  ∃ l, Links.Reads ts l ∧ ∀ left row, (∀ j ∈ row, j.joint ≠ .or) →
    (gather id left (row ++ l.queries)).disjuncts.map bare =
      (gather id left row).disjuncts.map bare ++ qs.map bare

variable {ts us : List Token} {q : Query} {qs : List Query} {t : Token}

/-- An operand is read as a row of one. -/
theorem ReadsOperand.row (h : ReadsOperand ts q) : ReadsRow ts q := by
  obtain ⟨o, ho, hq⟩ := h
  exact ⟨ts, [], o, .nil, (List.append_nil ts).symm, ho, .nil, by simp [Links.queries], hq⟩

/-- A row is read as an expression of one disjunct. -/
theorem ReadsRow.expression (h : ReadsRow ts q) : ReadsExpression ts q := by
  obtain ⟨us, vs, o, l, rfl, ho, hl, -, hq⟩ := h
  exact ⟨.row o l, .row ho hl, hq⟩

/-- An expression between parentheses is read as an operand. -/
theorem ReadsExpression.operand {l r : Token} (h : ReadsExpression ts q) (hl : l.kind = .openParen)
    (hr : r.kind = .closeParen) : ReadsOperand (l :: (ts ++ [r])) q := by
  obtain ⟨e, he, hq⟩ := h
  exact ⟨.group e, .group hl he hr, hq⟩

/-- An operand behind `NOT` is read as its negation. -/
theorem ReadsOperand.not (h : ReadsOperand ts q) (ht : t.kind = .not) (p : Nat) :
    ReadsOperand (t :: ts) (.not q p) := by
  obtain ⟨o, ho, hq⟩ := h
  refine ⟨.negated o t.position, .negated ht ho, ?_⟩
  rw [Operand.query, bare, bare, hq]

/-- No tokens are no further conjuncts. -/
theorem readsConjuncts_nil : ReadsConjuncts [] [] :=
  ⟨.nil, .nil, by simp [Links.queries], rfl⟩

/-- An operand beside another one is a further conjunct. -/
theorem ReadsConjuncts.beside (h : ReadsOperand ts q) (hs : ReadsConjuncts us qs) :
    ReadsConjuncts (ts ++ us) (q :: qs) := by
  obtain ⟨o, ho, hq⟩ := h
  obtain ⟨l, hl, hjoint, hqs⟩ := hs
  obtain ⟨t, ts, rfl, -⟩ := ho.exists_cons
  refine ⟨.cons .beside t.position o l, .beside ho hl, ?_, ?_⟩
  · exact List.forall_mem_cons.2 ⟨by simp, hjoint⟩
  · rw [Links.queries, List.map_cons, List.map_cons, List.map_cons, hqs, hq]

/-- An operand behind `AND` is a further conjunct. -/
theorem ReadsConjuncts.and (h : ReadsOperand ts q) (hs : ReadsConjuncts us qs) (ht : t.kind = .and) :
    ReadsConjuncts (t :: (ts ++ us)) (q :: qs) := by
  obtain ⟨o, ho, hq⟩ := h
  obtain ⟨l, hl, hjoint, hqs⟩ := hs
  have hj : Joint.and.kind? = some t.kind := by rw [ht]; rfl
  refine ⟨.cons .and t.position o l, .written hj ho hl, ?_, ?_⟩
  · exact List.forall_mem_cons.2 ⟨by simp, hjoint⟩
  · rw [Links.queries, List.map_cons, List.map_cons, List.map_cons, hqs, hq]

/-- Operands that are no conjunctions themselves make up a conjunction. -/
theorem ReadsOperand.rowAnd (h : ReadsOperand ts q) (hs : ReadsConjuncts us qs) (hne : qs ≠ [])
    (hand : ∀ q' ∈ q :: qs, q'.isAnd = false) (p : Nat) :
    ReadsRow (ts ++ us) (.and (q :: qs) p) := by
  obtain ⟨o, ho, hq⟩ := h
  obtain ⟨l, hl, hjoint, hqs⟩ := hs
  refine ⟨ts, us, o, l, rfl, ho, hl, hjoint, ?_⟩
  have hitem : ∀ j ∈ l.queries, j.item.isAnd = false := by
    intro j hj
    have hmem : j.item.bare ∈ qs.map bare := by
      rw [← hqs, List.map_map]
      exact List.mem_map_of_mem hj
    obtain ⟨q', hq', hbare⟩ := List.mem_map.1 hmem
    rw [← isAnd_bare, ← hbare, isAnd_bare]
    exact hand q' (List.mem_cons_of_mem q hq')
  have hfirst : o.query.isAnd = false := by
    rw [← isAnd_bare, hq, isAnd_bare]
    exact hand q List.mem_cons_self
  have hgather : (gather id o.query l.queries).conjuncts =
      [] ++ o.query.conjuncts ++ l.queries.map (·.item) :=
    conjuncts_gather l.queries (fun j hj => ⟨hjoint j hj, hitem j hj⟩) (fun _ => rfl) o.query
  rw [conjuncts_of_not_isAnd hfirst] at hgather
  have hlen : 2 ≤ (q :: qs).length := Nat.succ_le_succ (List.length_pos_iff.2 hne)
  rw [bare, bareAll_eq_map]
  refine bare_eq_and ?_ hlen
  rw [hgather, List.nil_append, List.singleton_append, List.map_cons, hq, hqs, List.map_cons]

/-- No tokens are no further disjuncts. -/
theorem readsDisjuncts_nil : ReadsDisjuncts [] [] :=
  ⟨.nil, .nil, fun left row _ => by simp [Links.queries]⟩

/-- One more row behind an `OR` is one more disjunct. -/
theorem ReadsDisjuncts.or (h : ReadsRow ts q) (hs : ReadsDisjuncts us qs) (ht : t.kind = .or)
    (hor : q.isOr = false) : ReadsDisjuncts (t :: (ts ++ us)) (q :: qs) := by
  obtain ⟨ts, vs, o, k, rfl, ho, hk, hjoint, hq⟩ := h
  obtain ⟨l, hl, hqs⟩ := hs
  have hj : Joint.or.kind? = some t.kind := by rw [ht]; rfl
  have hreads := Links.Reads.written hj ho (hk.append hl)
  rw [← List.append_assoc] at hreads
  refine ⟨.cons .or t.position o (k.append l), hreads, fun left row hrow => ?_⟩
  have hone : (gather id o.query k.queries).disjuncts.map bare = [q.bare] :=
    map_bare_disjuncts_of_bare_eq hq hor
  rw [Links.queries, Links.queries_append, gather_append_or row hrow, joinOr, disjuncts,
    List.map_append, hqs o.query k.queries hjoint, hone]
  rfl

/-- Rows that are no disjunctions themselves make up a disjunction. -/
theorem ReadsRow.expressionOr (h : ReadsRow ts q) (hs : ReadsDisjuncts us qs) (hne : qs ≠ [])
    (hor : q.isOr = false) (p : Nat) : ReadsExpression (ts ++ us) (.or (q :: qs) p) := by
  obtain ⟨ts, vs, o, k, rfl, ho, hk, hjoint, hq⟩ := h
  obtain ⟨l, hl, hqs⟩ := hs
  have hreads := Expression.Reads.row ho (hk.append hl)
  rw [← List.append_assoc] at hreads
  refine ⟨.row o (k.append l), hreads, ?_⟩
  have hone : (gather id o.query k.queries).disjuncts.map bare = [q.bare] :=
    map_bare_disjuncts_of_bare_eq hq hor
  have hlen : 2 ≤ (q :: qs).length := Nat.succ_le_succ (List.length_pos_iff.2 hne)
  rw [Expression.query, Links.queries_append, bare, bareAll_eq_map]
  refine bare_eq_or ?_ hlen
  rw [hqs o.query k.queries hjoint, hone]
  rfl

end Query

end TaskQuery
