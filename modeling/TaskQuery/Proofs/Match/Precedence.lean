import Mathlib
import TaskQuery.Proofs.Match.ShortCircuit
import TaskQuery.Proofs.Query.Derivation

/-!
# Precedence

How operators bind is read off the row of operands that the tokens derive, without a parser: the
row is cut at its `OR`s, the operands of a piece all have to hold, and one of the pieces has to
hold.  What is written between the operands of a piece does not matter.

* `pieces` cuts a row at its `OR`s.
* `Expression.verdict` is the result of matching an expression by that reading.
* `evaluate_gather`: the query that the parser builds for a row has the same result.
* `evaluate_eq_verdict`: so a query text matches as it reads, with the same truth value or the
  same error in every scope.
-/

namespace TaskQuery

/-- The same place with another item. -/
def Joined.map {α β : Type} (f : α → β) (j : Joined α) : Joined β := ⟨j.joint, j.position, f j.item⟩

/-- The pieces of a row between its `OR`s; `piece` is what the first one starts with. -/
def pieces {α : Type} (piece : List α) : List (Joined α) → List (List α)
  | [] => [piece]
  | ⟨.or, _, a⟩ :: rest => piece :: pieces [a] rest
  | ⟨.and, _, a⟩ :: rest => pieces (piece ++ [a]) rest
  | ⟨.beside, _, a⟩ :: rest => pieces (piece ++ [a]) rest

mutual

/-- Matching an operand as it reads: `NOT` negates the one operand behind it. -/
def Operand.verdict (s : Scope) : Operand → Verdict
  | .test l _ => s.matchesLeaf l
  | .negated o _ => Verdict.negate (o.verdict s)
  | .group e => e.verdict s

/-- Matching an expression as it reads: one of the pieces between the `OR`s holds as a whole. -/
def Expression.verdict (s : Scope) : Expression → Verdict
  | .row first rest =>
    Verdict.any ((pieces [first.verdict s] (rest.verdicts s)).map Verdict.all)

/-- Matching the operands behind the first one of a row. -/
def Links.verdicts (s : Scope) : Links → List (Joined Verdict)
  | .nil => []
  | .cons joint position o rest => ⟨joint, position, o.verdict s⟩ :: rest.verdicts s

end

variable (s : Scope)

/-! ## Rows -/

/-- `wrap` puts a query behind operands with the results `before`. -/
def Prepends (before : List Verdict) (wrap : Query → Query) : Prop :=
  ∀ q : Query, q.IsProper → (wrap q).IsProper ∧
    s.evaluate (wrap q) = Verdict.andThen (Verdict.all before) (s.evaluate q)

/-- Putting nothing in front changes nothing. -/
theorem prepends_id : Prepends s [] id := fun _ hq => ⟨hq, rfl⟩

variable {s}

/-- An `AND` puts what follows behind one more group of operands. -/
theorem Prepends.joinAnd {before group : List Verdict} {wrap : Query → Query} {left : Query}
    (h : Prepends s before wrap) (hl : left.IsProper)
    (he : s.evaluate left = Verdict.all group) (position : Nat) :
    Prepends s (before ++ group) fun right => wrap (left.joinAnd right position) := by
  intro q hq
  obtain ⟨hproper, heval⟩ := h _ (Query.isProper_joinAnd hl position)
  refine ⟨hproper, ?_⟩
  rw [heval, Scope.evaluate_joinAnd s hl hq, he, Verdict.all_append, Verdict.andThen_assoc]

variable (s)

/-- The query of a row matches as the row reads: `before` and `group` are the results of the
operands since the last `OR`, those since the last `AND` in `group`. -/
theorem evaluate_gather (row : List (Joined Query)) (hrow : ∀ j ∈ row, j.item.IsProper)
    {before group : List Verdict} {wrap : Query → Query} {left : Query}
    (hw : Prepends s before wrap) (hl : left.IsProper)
    (he : s.evaluate left = Verdict.all group) :
    (Query.gather wrap left row).IsProper ∧
      s.evaluate (Query.gather wrap left row) =
        Verdict.any ((pieces (before ++ group) (row.map (Joined.map s.evaluate))).map
          Verdict.all) := by
  induction row generalizing before group wrap left with
  | nil =>
    obtain ⟨hproper, heval⟩ := hw left hl
    refine ⟨hproper, ?_⟩
    simp only [Query.gather, List.map_nil, pieces, List.map_cons, Verdict.any_singleton]
    rw [heval, he, Verdict.all_append]
  | cons j row ih =>
    obtain ⟨joint, p, q⟩ := j
    have hq : q.IsProper := hrow _ List.mem_cons_self
    have hrest : ∀ j ∈ row, j.item.IsProper := fun j hj => hrow j (List.mem_cons_of_mem _ hj)
    have hone : s.evaluate q = Verdict.all [s.evaluate q] := (Verdict.all_singleton _).symm
    cases joint with
    | beside =>
      have hgroup : s.evaluate (left.conjoin q p) = Verdict.all (group ++ [s.evaluate q]) := by
        rw [Scope.evaluate_conjoin s hl, he, Verdict.all_append, Verdict.all_singleton]
      have h := ih hrest hw (Query.isProper_conjoin left q p) hgroup
      rw [← List.append_assoc] at h
      exact h
    | and => exact ih hrest (hw.joinAnd hl he p) hq hone
    | or =>
      obtain ⟨hproper, heval⟩ := hw left hl
      obtain ⟨hproper', heval'⟩ := ih hrest (prepends_id s) hq hone
      refine ⟨Query.isProper_joinOr hproper p, ?_⟩
      rw [Query.gather, Scope.evaluate_joinOr s hproper hproper', heval, he, heval',
        ← Verdict.all_append]
      rfl

/-! ## Trees -/

mutual

/-- The query of an operand matches as the operand reads. -/
theorem evaluate_operand (o : Operand) : o.query.IsProper ∧ s.evaluate o.query = o.verdict s := by
  cases o with
  | test l position => exact ⟨Query.isProper_leaf l position, by rw [Operand.query, Scope.evaluate,
      Operand.verdict]⟩
  | negated o position =>
    obtain ⟨-, h⟩ := evaluate_operand o
    refine ⟨Query.isProper_not _ position, ?_⟩
    rw [Operand.query, Scope.evaluate_not, h, Operand.verdict]
  | group e => exact evaluate_expression e

/-- The query of an expression matches as the expression reads. -/
theorem evaluate_expression (e : Expression) :
    e.query.IsProper ∧ s.evaluate e.query = e.verdict s := by
  cases e with
  | row first rest =>
    obtain ⟨hfirst, hone⟩ := evaluate_operand first
    obtain ⟨hrest, hverdicts⟩ := evaluate_links rest
    rw [Expression.query, Expression.verdict, ← hverdicts, ← hone]
    exact evaluate_gather s rest.queries hrest (prepends_id s) hfirst
      (Verdict.all_singleton _).symm

/-- The queries behind the first operand of a row match as they read. -/
theorem evaluate_links (l : Links) :
    (∀ j ∈ l.queries, j.item.IsProper) ∧
      l.queries.map (Joined.map s.evaluate) = l.verdicts s := by
  cases l with
  | nil => exact ⟨by simp [Links.queries], rfl⟩
  | cons joint position o rest =>
    obtain ⟨hproper, heval⟩ := evaluate_operand o
    obtain ⟨hrest, hverdicts⟩ := evaluate_links rest
    constructor
    · intro j hj
      rw [Links.queries, List.mem_cons] at hj
      rcases hj with rfl | hj
      · exact hproper
      · exact hrest j hj
    · rw [Links.queries, List.map_cons, hverdicts, Joined.map, heval, Links.verdicts]

end

/-- **A query text matches as it reads.**  Its tokens derive an expression, and in every scope the
parsed query gives the truth value or the error of any such expression. -/
theorem evaluate_eq_verdict {text : String} {q : Query} (h : Query.parse text = .ok q) :
    (∃ e, Expression.Reads (Token.scan text) e) ∧
      ∀ e, Expression.Reads (Token.scan text) e → ∀ s : Scope, s.evaluate q = e.verdict s := by
  obtain ⟨e₀, he₀, -⟩ := Query.parse_eq_ok_iff.1 h
  refine ⟨⟨e₀, he₀⟩, ?_⟩
  intro e he s
  have hparse : Query.parse text = .ok e.query := Query.parse_eq_ok_iff.2 ⟨e, he, rfl⟩
  obtain rfl : q = e.query := by simpa [h] using hparse
  exact (evaluate_expression s e).2

/-- The row `a b AND -c OR d NOT e` has the pieces `a b AND -c` and `d NOT e`. -/
theorem evaluate_eq_verdict_mixed :
    let q : Query := .or [.and [.leaf (.term "a") 0, .leaf (.term "b") 2,
      .not (.leaf (.term "c") 9) 8] 4, .and [.leaf (.term "d") 14,
      .not (.leaf (.term "e") 20) 16] 16] 11
    Query.parse "a b AND -c OR d NOT e" = .ok q ∧
      (∃ e, Expression.Reads (Token.scan "a b AND -c OR d NOT e") e) ∧
      ∀ e, Expression.Reads (Token.scan "a b AND -c OR d NOT e") e →
        ∀ s : Scope, s.evaluate q = e.verdict s := by
  intro q
  have h : Query.parse "a b AND -c OR d NOT e" = .ok q := by cbv
  exact ⟨h, evaluate_eq_verdict h⟩

end TaskQuery
