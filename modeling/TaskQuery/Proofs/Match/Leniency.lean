import Mathlib.Data.List.Basic
import TaskQuery.Proofs.Match.Formula

/-!
# Strict and lenient matching

The two modes differ in one place: a filter that cannot be applied is an error in strict mode and
no match otherwise.  This happens filter by filter and not once for the query.

* `Query.mapTests` puts other tests in the places of those of a query.
* `evaluate_mapTests`: only the results of the tests count.
* `evaluate_eq_ok_of_tests`: what has a truth value keeps it when tests with one keep theirs.
* `evaluate_modes`: lenient matching is the formula of the query where every test has a truth
  value; it is strict matching of the query in which each filter that cannot be applied is
  replaced by one that matches nothing; and it keeps every truth value of strict matching.
-/

namespace TaskQuery

mutual

/-- The query with other tests. -/
def Query.mapTests (f : Leaf → Leaf) : Query → Query
  | .leaf l p => .leaf (f l) p
  | .and qs p => .and (Query.mapTestsAll f qs) p
  | .or qs p => .or (Query.mapTestsAll f qs) p
  | .not q p => .not (q.mapTests f) p

/-- The queries with other tests. -/
def Query.mapTestsAll (f : Leaf → Leaf) : List Query → List Query
  | [] => []
  | q :: qs => q.mapTests f :: Query.mapTestsAll f qs

end

/-- Tests are replaced operand by operand. -/
theorem Query.mapTestsAll_eq_map (f : Leaf → Leaf) (qs : List Query) :
    mapTestsAll f qs = qs.map (mapTests f) := by
  induction qs with
  | nil => rw [mapTestsAll, List.map_nil]
  | cons q qs ih => rw [mapTestsAll, ih, List.map_cons]

namespace Verdict

/-- Truth values of a short-circuit conjunction survive as long as those of the operands do. -/
theorem all_eq_ok_of_forall {α : Type} {f g : α → Verdict} {xs : List α} {b : Bool}
    (h : ∀ x ∈ xs, ∀ b, f x = .ok b → g x = .ok b) (hf : all (xs.map f) = .ok b) :
    all (xs.map g) = .ok b := by
  induction xs with
  | nil => exact hf
  | cons x xs ih =>
    obtain ⟨hx, hxs⟩ := List.forall_mem_cons.1 h
    rw [List.map_cons, all] at hf ⊢
    rcases hfx : f x with e | (_ | _)
    · rw [hfx] at hf
      cases hf
    · rw [hfx] at hf
      rw [hx false hfx]
      exact hf
    · rw [hfx, true_andThen] at hf
      rw [hx true hfx, true_andThen]
      exact ih hxs hf

/-- Truth values of a short-circuit disjunction survive as long as those of the operands do. -/
theorem any_eq_ok_of_forall {α : Type} {f g : α → Verdict} {xs : List α} {b : Bool}
    (h : ∀ x ∈ xs, ∀ b, f x = .ok b → g x = .ok b) (hf : any (xs.map f) = .ok b) :
    any (xs.map g) = .ok b := by
  induction xs with
  | nil => exact hf
  | cons x xs ih =>
    obtain ⟨hx, hxs⟩ := List.forall_mem_cons.1 h
    rw [List.map_cons, any] at hf ⊢
    rcases hfx : f x with e | (_ | _)
    · rw [hfx] at hf
      cases hf
    · rw [hfx, false_orElse] at hf
      rw [hx false hfx, false_orElse]
      exact ih hxs hf
    · rw [hfx] at hf
      rw [hx true hfx]
      exact hf

end Verdict

namespace Scope

variable {s t : Scope}

/-- Only the results of the tests count: in one scope a query matches as in another one with other
tests, when the tests do. -/
theorem evaluate_mapTests {f : Leaf → Leaf} (h : ∀ l, s.matchesLeaf (f l) = t.matchesLeaf l)
    (q : Query) : s.evaluate (q.mapTests f) = t.evaluate q := by
  induction q using Query.induction_operands with
  | leaf l p =>
    rw [Query.mapTests, evaluate, evaluate]
    exact h l
  | and qs p ih =>
    rw [Query.mapTests, Query.mapTestsAll_eq_map]
    by_cases hne : qs = []
    · rw [hne, List.map_nil, evaluate, evaluate]
    · rw [evaluate_and s (by simpa using hne), evaluate_and t hne, List.map_map]
      exact congrArg Verdict.all (List.map_congr_left ih)
  | or qs p ih =>
    rw [Query.mapTests, Query.mapTestsAll_eq_map]
    by_cases hne : qs = []
    · rw [hne, List.map_nil, evaluate, evaluate]
    · rw [evaluate_or s (by simpa using hne), evaluate_or t hne, List.map_map]
      exact congrArg Verdict.any (List.map_congr_left ih)
  | not q p ih => rw [Query.mapTests, evaluate_not, evaluate_not, ih]

/-- A query keeps its truth value in a scope in which its tests keep theirs. -/
theorem evaluate_eq_ok_of_tests (h : ∀ l b, s.matchesLeaf l = .ok b → t.matchesLeaf l = .ok b)
    (q : Query) : ∀ b, s.evaluate q = .ok b → t.evaluate q = .ok b := by
  induction q using Query.induction_operands with
  | leaf l p =>
    intro b hb
    rw [evaluate] at hb ⊢
    exact h l b hb
  | and qs p ih =>
    intro b hb
    by_cases hne : qs = []
    · rw [hne, evaluate] at hb
      cases hb
    · rw [evaluate_and s hne] at hb
      rw [evaluate_and t hne]
      exact Verdict.all_eq_ok_of_forall ih hb
  | or qs p ih =>
    intro b hb
    by_cases hne : qs = []
    · rw [hne, evaluate] at hb
      cases hb
    · rw [evaluate_or s hne] at hb
      rw [evaluate_or t hne]
      exact Verdict.any_eq_ok_of_forall ih hb
  | not q p ih =>
    intro b hb
    rw [evaluate_not] at hb ⊢
    rcases hq : s.evaluate q with e | c
    · rw [hq] at hb
      cases hb
    · rw [hq] at hb
      rw [ih c hq]
      exact hb

/-! ## The two modes -/

/-- The scope in strict or in lenient mode. -/
def withStrict (s : Scope) (strict : Bool) : Scope :=
  { s with settings := { s.settings with strict } }

/-- A filter that cannot be applied is replaced by `never`. -/
def settle (s : Scope) (never l : Leaf) : Leaf :=
  match (s.withStrict true).matchesLeaf l with
  | .error (.filter _) => never
  | _ => l

/-- The mode decides about the filters that cannot be applied and about nothing else. -/
theorem matchesLeaf_withStrict (s : Scope) (strict : Bool) (l : Leaf) :
    (s.withStrict strict).matchesLeaf l = lenient strict (s.test l) := by
  have htest : (s.withStrict strict).test l = s.test l := by
    cases l with
    | property text exact =>
      rw [test, test, matchesProperty, matchesProperty,
        show (s.withStrict strict).properties = s.properties from rfl]
      split
      · rfl
      · rfl
      · exact anyPair_congr _ fun p _ => rfl
    | _ => rfl
  rw [matchesLeaf, htest]
  rfl

/-- In strict mode all errors show. -/
theorem matchesLeaf_strict (s : Scope) (l : Leaf) :
    (s.withStrict true).matchesLeaf l = s.test l := by
  rw [matchesLeaf_withStrict]
  unfold lenient
  split
  · next h => rw [h, if_pos rfl]
  · rfl

/-- A test has in lenient mode the result that its replacement has in strict mode. -/
theorem matchesLeaf_settle {never : Leaf} (h : (s.withStrict true).matchesLeaf never = .ok false)
    (l : Leaf) : (s.withStrict true).matchesLeaf (s.settle never l) =
      (s.withStrict false).matchesLeaf l := by
  rw [settle, matchesLeaf_withStrict s false]
  split
  · next fault hl =>
    rw [matchesLeaf_strict] at hl
    rw [h, hl]
    rfl
  · next hl =>
    rw [matchesLeaf_strict] at hl ⊢
    unfold lenient
    split
    · next fault hfault => exact absurd hfault (hl fault)
    · rfl

/-- A truth value in strict mode is the truth value in lenient mode. -/
theorem matchesLeaf_lenient_of_strict {l : Leaf} {b : Bool}
    (h : (s.withStrict true).matchesLeaf l = .ok b) :
    (s.withStrict false).matchesLeaf l = .ok b := by
  rw [matchesLeaf_strict] at h
  rw [matchesLeaf_withStrict, h]
  rfl

/-- **Lenient matching.**  Where every test has a truth value, a query without empty nodes has in
lenient mode the value of its Boolean formula over them, and so do its rearrangements; its result
is that of strict mode once every filter that cannot be applied is replaced by a test that matches
nothing; and a truth value in strict mode is the truth value in lenient mode. -/
theorem evaluate_modes (s : Scope) {q : Query} (hq : q.IsFilled) :
    ((∀ l ∈ q.tests, ∃ b, (s.withStrict false).evaluate (.leaf l 0) = .ok b) →
        (s.withStrict false).evaluate q = .ok (q.holds (s.withStrict false).passes) ∧
          ∀ r, q.Rearranged r →
            (s.withStrict false).evaluate r = (s.withStrict false).evaluate q) ∧
      (∀ never, (s.withStrict true).evaluate (.leaf never 0) = .ok false →
        (s.withStrict false).evaluate q =
          (s.withStrict true).evaluate (q.mapTests (s.settle never))) ∧
      ∀ b, (s.withStrict true).evaluate q = .ok b → (s.withStrict false).evaluate q = .ok b := by
  have hleaf : ∀ (t : Scope) (l : Leaf), t.evaluate (.leaf l 0) = t.matchesLeaf l :=
    fun t l => by rw [evaluate]
  simp only [hleaf]
  refine ⟨fun hv => ⟨?_, fun r hr => evaluate_rearranged hq hr hv⟩, fun never hnever => ?_, ?_⟩
  · exact evaluate_eq_holds hq fun l hl => matchesLeaf_eq_passes _ (hv l hl)
  · exact (evaluate_mapTests (matchesLeaf_settle hnever) q).symm
  · exact evaluate_eq_ok_of_tests (fun l b => matchesLeaf_lenient_of_strict) q

/-- `NOT scheduled:soon OR report` is an error in strict mode and a match in lenient mode, and so
are `NOT (scheduled:soon AND NOT report)`, by De Morgan, and in strict mode the query with a test
that matches nothing in the place of the filter. -/
theorem evaluate_modes_soon :
    let s : Scope :=
      { task := { path := "a.md" }, caseSensitive := false, settings := {}, properties := []
        clock := ⟨2024, 1, 10, by decide⟩ }
    let soon : Query := .leaf (.field "scheduled" "soon" false) 4
    let report : Query := .leaf (.term "report") 22
    let q : Query := .or [.not soon 0, report] 19
    q.IsFilled ∧
      (s.withStrict true).evaluate q = .error (.filter (.notADate "soon")) ∧
      (s.withStrict false).evaluate q = .ok true ∧
      (s.withStrict false).evaluate (.not (.and [soon, .not report 0] 0) 0) = .ok true ∧
      (s.withStrict true).evaluate (q.mapTests (s.settle (.term ""))) = .ok true := by
  intro s soon report q
  have hq : q.IsFilled := by
    refine .or (List.cons_ne_nil _ _) ?_ 19
    rintro r (_ | ⟨_, _ | ⟨_, hr⟩⟩)
    · exact .not (.leaf _ 4) 0
    · exact .leaf _ 22
    · cases hr
  have hstrict : (s.withStrict true).evaluate q = .error (.filter (.notADate "soon")) := by
    decide +kernel
  have hlenient : (s.withStrict false).evaluate q = .ok true := by decide +kernel
  have hnever : (s.withStrict true).evaluate (.leaf (.term "") 0) = .ok false := by decide +kernel
  have hsoon : (s.withStrict false).evaluate (.leaf (.field "scheduled" "soon" false) 0) =
      .ok false := by decide +kernel
  have hreport : (s.withStrict false).evaluate (.leaf (.term "report") 0) = .ok false := by
    decide +kernel
  have hdeMorgan : q.Rearranged (.not (.and [soon, .not report 0] 0) 0) := by
    refine .symm (.trans (.deMorgan .all [soon, .not report 0] 0 0 0 19) ?_)
    exact .operand .any (.notNot report 0 0) [.not soon 0] [] 19 19
  obtain ⟨hformula, hreplaced, -⟩ := evaluate_modes s hq
  refine ⟨hq, hstrict, hlenient, ?_, ?_⟩
  · rw [← hlenient]
    refine (hformula ?_).2 _ hdeMorgan
    rintro l (_ | ⟨_, _ | ⟨_, hl⟩⟩)
    · exact ⟨false, hsoon⟩
    · exact ⟨false, hreport⟩
    · cases hl
  · rw [← hreplaced _ hnever]
    exact hlenient

end Scope

end TaskQuery
