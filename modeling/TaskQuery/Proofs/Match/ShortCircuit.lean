import TaskQuery.Match.Query

/-!
# Short-circuit evaluation

A match gives a truth value or an error, and operands behind the deciding one are not looked at,
so that their errors do not show.

* `Verdict.all` and `Verdict.any` are the short-circuit conjunction and disjunction of results.
* `evaluate_and`, `evaluate_or`: they are what a node of a query makes of its operands.
* `evaluate_conjoin`, `evaluate_joinAnd`, `evaluate_joinOr`: gathering the operands of one
  operator in one node changes neither the truth value nor the error, as long as no node without
  operands is involved (`Query.IsProper`).
* `matchesProperty_eq_any`, `matchesValue_cases`: a property matches by one of its alternatives and
  one of its values, and each value by what it is, its day or its text.
* `evaluate_congr`: what surrounds the task plays a part only by way of the tests of the query.
-/

namespace TaskQuery

/-- The result of a match or of a part of it. -/
abbrev Verdict := Except MatchError Bool

namespace Verdict

/-- Both hold; the second one counts only if the first one holds. -/
def andThen (a b : Verdict) : Verdict := do if ← a then b else return false

/-- One of them holds; the second one counts only if the first one does not hold. -/
def orElse (a b : Verdict) : Verdict := do if ← a then return true else b

/-- The opposite truth value. -/
def negate (a : Verdict) : Verdict := do return !(← a)

/-- All hold, tried from left to right until one does not. -/
def all : List Verdict → Verdict
  | [] => .ok true
  | v :: vs => andThen v (all vs)

/-- One of them holds, tried from left to right until one does. -/
def any : List Verdict → Verdict
  | [] => .ok false
  | v :: vs => orElse v (any vs)

/-- A conjunction with what is true is its other operand. -/
@[simp] theorem andThen_true (a : Verdict) : andThen a (.ok true) = a := by
  rcases a with e | (_ | _) <;> rfl

/-- Behind what is true the other operand decides. -/
@[simp] theorem true_andThen (a : Verdict) : andThen (.ok true) a = a := rfl

/-- Conjunctions may be grouped in any way. -/
theorem andThen_assoc (a b c : Verdict) : andThen (andThen a b) c = andThen a (andThen b c) := by
  rcases a with e | (_ | _) <;> rfl

/-- A disjunction with what is false is its other operand. -/
@[simp] theorem orElse_false (a : Verdict) : orElse a (.ok false) = a := by
  rcases a with e | (_ | _) <;> rfl

/-- Behind what is false the other operand decides. -/
@[simp] theorem false_orElse (a : Verdict) : orElse (.ok false) a = a := rfl

/-- Disjunctions may be grouped in any way. -/
theorem orElse_assoc (a b c : Verdict) : orElse (orElse a b) c = orElse a (orElse b c) := by
  rcases a with e | (_ | _) <;> rfl

/-- A conjunction may be cut in two. -/
theorem all_append (vs ws : List Verdict) : all (vs ++ ws) = andThen (all vs) (all ws) := by
  induction vs with
  | nil => rfl
  | cons v vs ih => rw [List.cons_append, all, ih, all, andThen_assoc]

/-- A disjunction may be cut in two. -/
theorem any_append (vs ws : List Verdict) : any (vs ++ ws) = orElse (any vs) (any ws) := by
  induction vs with
  | nil => rfl
  | cons v vs ih => rw [List.cons_append, any, ih, any, orElse_assoc]

/-- Rows of alternatives are tried one after the other. -/
theorem any_flatMap {α : Type} (f : α → List Verdict) (xs : List α) :
    any (xs.flatMap f) = any (xs.map fun x => any (f x)) := by
  induction xs with
  | nil => rfl
  | cons x xs ih => rw [List.flatMap_cons, any_append, ih, List.map_cons, any]

/-- A conjunction of one operand is that operand. -/
@[simp] theorem all_singleton (v : Verdict) : all [v] = v := by simp [all]

/-- A disjunction of one operand is that operand. -/
@[simp] theorem any_singleton (v : Verdict) : any [v] = v := by simp [any]

end Verdict

/-- The values of a property: the elements of a list, or else the one value. -/
def Value.elements : Value → List Value
  | .list vs => vs
  | v => [v]

/-- A value that is no list is its only element. -/
theorem Value.elements_of_not_list {v : Value} (h : ∀ vs, v ≠ .list vs) : v.elements = [v] := by
  cases v with
  | list vs => exact absurd rfl (h vs)
  | _ => rfl

/-- Whether a value is compared as a text. -/
def Value.isTextual : Value → Bool
  | .null | .bool _ | .int _ | .float _ => false
  | _ => true

/-! ## Nodes of a query -/

namespace Query

/-- A query whose top node, if it is a conjunction or a disjunction, has operands. -/
def IsProper (q : Query) : Prop := q.conjuncts ≠ [] ∧ q.disjuncts ≠ []

/-- A leaf is proper. -/
theorem isProper_leaf (l : Leaf) (p : Nat) : (leaf l p).IsProper := by
  simp [IsProper, conjuncts, disjuncts]

/-- A negation is proper. -/
theorem isProper_not (q : Query) (p : Nat) : (not q p).IsProper := by
  simp [IsProper, conjuncts, disjuncts]

/-- A conjunction of two queries is proper. -/
theorem isProper_conjoin (left right : Query) (p : Nat) : (left.conjoin right p).IsProper := by
  unfold conjoin
  split <;> simp [IsProper, conjuncts, disjuncts]

/-- Queries joined by `AND` are proper. -/
theorem isProper_joinAnd {left right : Query} (h : left.IsProper) (p : Nat) :
    (left.joinAnd right p).IsProper := by
  simp [IsProper, joinAnd, conjuncts.eq_def (and _ _), disjuncts, h.1]

/-- Queries joined by `OR` are proper. -/
theorem isProper_joinOr {left right : Query} (h : left.IsProper) (p : Nat) :
    (left.joinOr right p).IsProper := by
  simp [IsProper, joinOr, conjuncts, disjuncts.eq_def (or _ _), h.2]

end Query

namespace Scope

variable (s : Scope)

/-- The operands of a conjunction are tried one by one. -/
theorem evaluateAll_eq_all (qs : List Query) : s.evaluateAll qs = Verdict.all (qs.map s.evaluate) := by
  induction qs with
  | nil => rw [evaluateAll]; rfl
  | cons q qs ih => rw [evaluateAll, ih]; rfl

/-- The operands of a disjunction are tried one by one. -/
theorem evaluateAny_eq_any (qs : List Query) : s.evaluateAny qs = Verdict.any (qs.map s.evaluate) := by
  induction qs with
  | nil => rw [evaluateAny]; rfl
  | cons q qs ih => rw [evaluateAny, ih]; rfl

/-- A conjunction with operands is their short-circuit conjunction. -/
theorem evaluate_and {qs : List Query} (h : qs ≠ []) (p : Nat) :
    s.evaluate (.and qs p) = Verdict.all (qs.map s.evaluate) := by
  cases qs with
  | nil => exact absurd rfl h
  | cons q qs => rw [evaluate, evaluateAll_eq_all]

/-- A disjunction with operands is their short-circuit disjunction. -/
theorem evaluate_or {qs : List Query} (h : qs ≠ []) (p : Nat) :
    s.evaluate (.or qs p) = Verdict.any (qs.map s.evaluate) := by
  cases qs with
  | nil => exact absurd rfl h
  | cons q qs => rw [evaluate, evaluateAny_eq_any]

/-- A negation turns the answer of its operand. -/
theorem evaluate_not (q : Query) (p : Nat) : s.evaluate (.not q p) = Verdict.negate (s.evaluate q) := by
  rw [evaluate]
  rfl

/-- A query matches as its conjuncts do together. -/
theorem all_conjuncts {q : Query} (h : q.IsProper) :
    Verdict.all (q.conjuncts.map s.evaluate) = s.evaluate q := by
  cases q with
  | and qs p => exact (s.evaluate_and h.1 p).symm
  | _ => simp [Query.conjuncts]

/-- A query matches as one of its disjuncts does. -/
theorem any_disjuncts {q : Query} (h : q.IsProper) :
    Verdict.any (q.disjuncts.map s.evaluate) = s.evaluate q := by
  cases q with
  | or qs p => exact (s.evaluate_or h.2 p).symm
  | _ => simp [Query.disjuncts]

/-- Queries joined by `AND` match where both do. -/
theorem evaluate_joinAnd {left right : Query} (hl : left.IsProper) (hr : right.IsProper)
    (p : Nat) : s.evaluate (left.joinAnd right p) = Verdict.andThen (s.evaluate left) (s.evaluate right) := by
  rw [Query.joinAnd, evaluate_and s (by simp [hl.1]), List.map_append, Verdict.all_append,
    all_conjuncts s hl, all_conjuncts s hr]

/-- Queries joined by `OR` match where one does. -/
theorem evaluate_joinOr {left right : Query} (hl : left.IsProper) (hr : right.IsProper)
    (p : Nat) : s.evaluate (left.joinOr right p) = Verdict.orElse (s.evaluate left) (s.evaluate right) := by
  rw [Query.joinOr, evaluate_or s (by simp [hl.2]), List.map_append, Verdict.any_append,
    any_disjuncts s hl, any_disjuncts s hr]

/-- A conjunction of two queries matches where both do. -/
theorem evaluate_conjoin {left : Query} (hl : left.IsProper) (right : Query) (p : Nat) :
    s.evaluate (left.conjoin right p) = Verdict.andThen (s.evaluate left) (s.evaluate right) := by
  cases left with
  | and qs p' =>
    have hqs : qs ≠ [] := hl.1
    rw [Query.conjoin, evaluate_and s (by simp), List.map_append, Verdict.all_append,
      evaluate_and s hqs]
    simp
  | _ =>
    rw [Query.conjoin, evaluate_and s (by simp)]
    · simp [Verdict.all]
    · intro qs p' h
      simp at h

/-! ## Properties -/

/-- The pairs are tried like the operands of a disjunction. -/
theorem anyPair_eq_any (exact : Bool) (pairs : List (List Char × Value)) :
    s.anyPair exact pairs = Verdict.any (pairs.map fun p => s.matchesValue p.1 p.2 exact) := by
  induction pairs with
  | nil => rfl
  | cons pair pairs ih =>
    rw [anyPair, ih]
    rfl

/-- The values that are found under a key. -/
def valuesUnder (key : String) : List Value :=
  ((Entries.get? s.properties key).map Value.elements).getD []

/-- Whether one of the values under a key satisfies an alternative. -/
def matchesAlternative (key : String) (wanted : List Char) (exact : Bool) : Verdict :=
  Verdict.any ((s.valuesUnder key).map fun v => s.matchesValue wanted v exact)

/-- A property with a value matches by one of its alternatives. -/
theorem matchesProperty_eq_any {text value : String}
    (hvalue : Leaf.propertyValue? text = some value) (exact : Bool) :
    s.matchesProperty text exact = Verdict.any ((Property.alternatives value.toList).map fun a =>
      s.matchesAlternative (Leaf.propertyKey text) a exact) := by
  have hpairs : s.matchesProperty text exact =
      s.anyPair exact ((Property.alternatives value.toList).flatMap fun a =>
        (s.valuesUnder (Leaf.propertyKey text)).map fun v => (a, v)) := by
    rw [matchesProperty, hvalue, valuesUnder]
    cases Entries.get? s.properties (Leaf.propertyKey text) with
    | none =>
      have hnil : ((Property.alternatives value.toList).flatMap fun _ =>
          ([] : List (List Char × Value))) = [] := by simp
      exact (congrArg (s.anyPair exact) hnil).symm
    | some held => rfl
  simp only [hpairs, anyPair_eq_any, List.map_flatMap, List.map_map, Verdict.any_flatMap,
    matchesAlternative]
  rfl

section

variable {s} {wanted : List Char} {actual : Value} {exact : Bool}

/-- A property with a text is compared by it. -/
theorem matchesPropertyText_of_toText {text : List Char}
    (h : actual.toText s.settings.nesting = .ok text) :
    s.matchesPropertyText wanted actual exact = .ok (s.comparesText wanted text exact) := by
  rw [matchesPropertyText, h]
  rfl

/-- A property without a text is not compared. -/
theorem matchesPropertyText_of_fault {fault : WriteFault}
    (h : actual.toText s.settings.nesting = .error fault) :
    s.matchesPropertyText wanted actual exact = .error (.noText fault) := by
  rw [matchesPropertyText, h]
  rfl

end

/-- A value of a property is compared as what it is, with the same result in every scope and whether
exact or not, or else it is one with a text and compared by its day and then by its text. -/
theorem matchesValue_cases (wanted : List Char) (actual : Value) :
    (∃ b, ∀ (t : Scope) (exact : Bool), t.matchesValue wanted actual exact = .ok b) ∨
      actual.isTextual = true ∧ ∀ (t : Scope) (exact : Bool), t.matchesValue wanted actual exact =
        Verdict.orElse (t.matchesPropertyDay wanted actual)
          (t.matchesPropertyText wanted actual exact) := by
  have hbody (t : Scope) := matchesValue.eq_def t wanted actual
  by_cases hnull : String.ofList (Text.lower wanted) = "null"
  · exact .inl ⟨_, fun t exact => (hbody t exact).trans (if_pos hnull)⟩
  have hkind (t : Scope) (exact : Bool) := (hbody t exact).trans (if_neg hnull)
  rcases hc : Property.numericComparison? wanted with _ | ⟨c, x⟩
  · rw [hc] at hkind
    cases actual with
    | null | bool b | int n | float y => exact .inl ⟨_, hkind⟩
    | text u | stamp u | time u | list vs | object vs => exact .inr ⟨rfl, hkind⟩
  · rw [hc] at hkind
    cases actual <;> exact .inl ⟨_, hkind⟩

/-- Scopes that agree on every pair of an alternative and a value agree on a property. -/
theorem anyPair_congr {s t : Scope} {exact : Bool} (pairs : List (List Char × Value))
    (h : ∀ p ∈ pairs, s.matchesValue p.1 p.2 exact = t.matchesValue p.1 p.2 exact) :
    s.anyPair exact pairs = t.anyPair exact pairs := by
  rw [anyPair_eq_any, anyPair_eq_any, List.map_congr_left h]

end Scope

/-! ## Tests of a query -/

mutual

/-- The tests of a query, from left to right. -/
def Query.tests : Query → List Leaf
  | .leaf l _ => [l]
  | .and qs _ => Query.testsOfAll qs
  | .or qs _ => Query.testsOfAll qs
  | .not q _ => q.tests

/-- The tests of several queries. -/
def Query.testsOfAll : List Query → List Leaf
  | [] => []
  | q :: qs => q.tests ++ Query.testsOfAll qs

end

namespace Scope

variable {s t : Scope}

mutual

/-- Scopes that agree on every test of a query agree on the query. -/
theorem evaluate_congr (q : Query) (h : ∀ l ∈ q.tests, s.matchesLeaf l = t.matchesLeaf l) :
    s.evaluate q = t.evaluate q := by
  cases q with
  | leaf l p =>
    rw [evaluate, evaluate]
    exact h l (by simp [Query.tests])
  | and qs p =>
    have hall := evaluateAll_congr qs (by simpa only [Query.tests] using h)
    cases qs with
    | nil => rw [evaluate, evaluate]
    | cons q qs => rw [evaluate, evaluate, hall]
  | or qs p =>
    have hany := evaluateAny_congr qs (by simpa only [Query.tests] using h)
    cases qs with
    | nil => rw [evaluate, evaluate]
    | cons q qs => rw [evaluate, evaluate, hany]
  | not q p => rw [evaluate, evaluate, evaluate_congr q (by simpa only [Query.tests] using h)]

/-- A conjunction depends on the answers of its tests only. -/
theorem evaluateAll_congr (qs : List Query)
    (h : ∀ l ∈ Query.testsOfAll qs, s.matchesLeaf l = t.matchesLeaf l) :
    s.evaluateAll qs = t.evaluateAll qs := by
  cases qs with
  | nil => rw [evaluateAll, evaluateAll]
  | cons q qs =>
    rw [Query.testsOfAll, List.forall_mem_append] at h
    rw [evaluateAll, evaluateAll, evaluate_congr q h.1, evaluateAll_congr qs h.2]

/-- A disjunction depends on the answers of its tests only. -/
theorem evaluateAny_congr (qs : List Query)
    (h : ∀ l ∈ Query.testsOfAll qs, s.matchesLeaf l = t.matchesLeaf l) :
    s.evaluateAny qs = t.evaluateAny qs := by
  cases qs with
  | nil => rw [evaluateAny, evaluateAny]
  | cons q qs =>
    rw [Query.testsOfAll, List.forall_mem_append] at h
    rw [evaluateAny, evaluateAny, evaluate_congr q h.1, evaluateAny_congr qs h.2]

end

end Scope

end TaskQuery
