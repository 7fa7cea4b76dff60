import TaskQuery.Proofs.Match.ShortCircuit

/-!
# Queries as Boolean formulas

Where every test of a query has a truth value, the order in which the operands are tried does not
show, and a query is the Boolean formula over its tests.

* `Query.holds` is the value of the formula, `Query.IsFilled` says that no node is without
  operands.
* `Query.Rearranged` puts operands in another order, groups them otherwise, and moves negations in
  or out.
* `Rearranged.holds_eq`: none of this changes the value.
* `evaluate_eq_holds`, `evaluate_rearranged`: so it does not change whether a task matches either.
* `exists_test_of_evaluate_eq_error`: an error comes from one of the tests.
-/

namespace TaskQuery

namespace Query

/-- To prove something of every query, prove it of a node from its operands. -/
theorem induction_operands {P : Query → Prop} (leaf : ∀ l p, P (.leaf l p))
    (and : ∀ qs p, (∀ q ∈ qs, P q) → P (.and qs p)) (or : ∀ qs p, (∀ q ∈ qs, P q) → P (.or qs p))
    (not : ∀ q p, P q → P (.not q p)) (q : Query) : P q := by
  refine @Query.rec P (fun qs => ∀ q ∈ qs, P q) leaf and or not ?nil ?cons q
  case nil => exact fun q hq => absurd hq List.not_mem_nil
  case cons => exact fun q qs hq hqs => List.forall_mem_cons.2 ⟨hq, hqs⟩

/-- Every conjunction and every disjunction has an operand. -/
inductive IsFilled : Query → Prop where
  | leaf (l : Leaf) (p : Nat) : IsFilled (.leaf l p)
  | and {qs : List Query} (h : qs ≠ []) (hs : ∀ q ∈ qs, IsFilled q) (p : Nat) :
      IsFilled (.and qs p)
  | or {qs : List Query} (h : qs ≠ []) (hs : ∀ q ∈ qs, IsFilled q) (p : Nat) :
      IsFilled (.or qs p)
  | not {q : Query} (h : IsFilled q) (p : Nat) : IsFilled (.not q p)

mutual

/-- The value of a query as a formula over the values of its tests. -/
def holds (v : Leaf → Bool) : Query → Bool
  | .leaf l _ => v l
  | .and qs _ => holdsAll v qs
  | .or qs _ => holdsAny v qs
  | .not q _ => !q.holds v

/-- Whether all formulas have the value true. -/
def holdsAll (v : Leaf → Bool) : List Query → Bool
  | [] => true
  | q :: qs => q.holds v && holdsAll v qs

/-- Whether one of the formulas has the value true. -/
def holdsAny (v : Leaf → Bool) : List Query → Bool
  | [] => false
  | q :: qs => q.holds v || holdsAny v qs

end

variable (v : Leaf → Bool)

/-- A conjunction holds if all its operands hold. -/
theorem holdsAll_eq_all (qs : List Query) : holdsAll v qs = qs.all (holds v) := by
  induction qs with
  | nil => rw [holdsAll, List.all_nil]
  | cons q qs ih => rw [holdsAll, ih, List.all_cons]

/-- A disjunction holds if one of its operands holds. -/
theorem holdsAny_eq_any (qs : List Query) : holdsAny v qs = qs.any (holds v) := by
  induction qs with
  | nil => rw [holdsAny, List.any_nil]
  | cons q qs ih => rw [holdsAny, ih, List.any_cons]

/-- The tests of operands are those of each. -/
theorem testsOfAll_eq_flatMap (qs : List Query) : testsOfAll qs = qs.flatMap tests := by
  induction qs with
  | nil => rw [testsOfAll, List.flatMap_nil]
  | cons q qs ih => rw [testsOfAll, ih, List.flatMap_cons]

end Query

/-! ## Conjunctions and disjunctions alike -/

/-- How the operands of a node are joined. -/
inductive Junction where
  /-- All of them hold. -/
  | all
  /-- One of them holds. -/
  | any
  deriving DecidableEq, Repr

namespace Junction

/-- The other way of joining. -/
def dual : Junction → Junction
  | all => any
  | any => all

/-- The value of joined values. -/
def value : Junction → List Bool → Bool
  | all, bs => bs.all id
  | any, bs => bs.any id

/-- The node with the given operands. -/
def node : Junction → List Query → Nat → Query
  | all => Query.and
  | any => Query.or

/-- The value of some operands in one place of the row stands for them. -/
theorem value_flatten (j : Junction) (as bs cs : List Bool) :
    j.value (as ++ j.value bs :: cs) = j.value (as ++ bs ++ cs) := by
  cases j <;> simp [value]

/-- One operand decides alone. -/
@[simp] theorem value_singleton (j : Junction) (b : Bool) : j.value [b] = b := by
  cases j <;> simp [value]

/-- An operand comes before what the others make. -/
theorem value_cons (j : Junction) (b : Bool) (bs : List Bool) :
    j.value (b :: bs) = j.value [b, j.value bs] := by
  cases j <;> simp [value]

/-- The order of the operands does not count. -/
theorem value_perm (j : Junction) {as bs : List Bool} (h : as.Perm bs) :
    j.value as = j.value bs := by
  cases j
  · exact h.all_eq
  · exact h.any_eq

/-- The law of De Morgan. -/
theorem value_not (j : Junction) (bs : List Bool) : j.dual.value (bs.map (!·)) = !j.value bs := by
  induction bs with
  | nil => cases j <;> rfl
  | cons b bs ih =>
    rw [List.map_cons, value_cons, ih, value_cons j]
    cases j <;> simp [value, dual]

variable (j : Junction)

/-- A node has the value of its operands. -/
@[simp] theorem holds_node (v : Leaf → Bool) (qs : List Query) (p : Nat) :
    (j.node qs p).holds v = j.value (qs.map (Query.holds v)) := by
  cases j
  · rw [node, Query.holds, Query.holdsAll_eq_all, value, List.all_map]
    rfl
  · rw [node, Query.holds, Query.holdsAny_eq_any, value, List.any_map]
    rfl

/-- The tests of a node are those of its operands. -/
@[simp] theorem tests_node (qs : List Query) (p : Nat) :
    (j.node qs p).tests = qs.flatMap Query.tests := by
  cases j <;> rw [node, Query.tests, Query.testsOfAll_eq_flatMap]

/-- A node is filled if it has operands and they are filled. -/
@[simp] theorem isFilled_node_iff {qs : List Query} {p : Nat} :
    (j.node qs p).IsFilled ↔ qs ≠ [] ∧ ∀ q ∈ qs, q.IsFilled := by
  constructor
  · intro h
    cases j <;> cases h <;> exact ⟨‹_›, ‹_›⟩
  · rintro ⟨hne, hqs⟩
    cases j
    · exact .and hne hqs p
    · exact .or hne hqs p

end Junction

namespace Query

/-- A negation is filled if its operand is. -/
theorem isFilled_not_iff {q : Query} {p : Nat} : (not q p).IsFilled ↔ q.IsFilled :=
  ⟨fun h => by cases h; assumption, fun h => h.not p⟩

/-! ## Rearranging -/

/-- The same formula in another shape: operands in another order or grouped otherwise, double
negations added or dropped, and negations moved over the operands of a node.  Positions are
free. -/
inductive Rearranged : Query → Query → Prop where
  | refl (q : Query) : Rearranged q q
  | symm {q r : Query} (h : Rearranged q r) : Rearranged r q
  | trans {q r t : Query} (h : Rearranged q r) (h' : Rearranged r t) : Rearranged q t
  /-- An operand of a node is rearranged. -/
  | operand (j : Junction) {q r : Query} (h : Rearranged q r) (before after : List Query)
      (p p' : Nat) : Rearranged (j.node (before ++ q :: after) p) (j.node (before ++ r :: after) p')
  /-- What is negated is rearranged. -/
  | negated {q r : Query} (h : Rearranged q r) (p p' : Nat) : Rearranged (not q p) (not r p')
  /-- The operands of a node change places. -/
  | reorder (j : Junction) {qs rs : List Query} (h : qs.Perm rs) (p p' : Nat) :
      Rearranged (j.node qs p) (j.node rs p')
  /-- A node among the operands of a node of its kind gives its operands to it. -/
  | flatten (j : Junction) {inner : List Query} (h : inner ≠ []) (before after : List Query)
      (p p' p'' : Nat) : Rearranged (j.node (before ++ j.node inner p :: after) p')
        (j.node (before ++ inner ++ after) p'')
  /-- A node with one operand is that operand. -/
  | single (j : Junction) (q : Query) (p : Nat) : Rearranged (j.node [q] p) q
  /-- A double negation is dropped. -/
  | notNot (q : Query) (p p' : Nat) : Rearranged (not (not q p) p') q
  /-- A negation goes to the operands of a node, which is joined the other way. -/
  | deMorgan (j : Junction) (qs : List Query) (p p' p'' p''' : Nat) :
      Rearranged (not (j.node qs p) p') (j.dual.node (qs.map fun q => not q p'') p''')

namespace Rearranged

variable {q r : Query}

/-- Rearranging neither fills nor empties a node. -/
theorem isFilled_iff (h : Rearranged q r) : q.IsFilled ↔ r.IsFilled := by
  induction h with
  | refl => exact Iff.rfl
  | symm _ ih => exact ih.symm
  | trans _ _ ih ih' => exact ih.trans ih'
  | operand j _ before after _ _ ih =>
    simp only [Junction.isFilled_node_iff, List.forall_mem_append, List.forall_mem_cons, ih]
    simp
  | negated _ _ _ ih => simp only [isFilled_not_iff, ih]
  | reorder j h =>
    have hnil := h.length_eq
    simp only [Junction.isFilled_node_iff, h.mem_iff, ← List.length_pos_iff, hnil]
  | flatten j h =>
    simp only [Junction.isFilled_node_iff, List.forall_mem_append, List.forall_mem_cons]
    simp [h, and_assoc]
  | single => simp
  | notNot => simp only [isFilled_not_iff]
  | deMorgan => simp [isFilled_not_iff]

/-- Rearranging keeps the tests. -/
theorem mem_tests_iff (h : Rearranged q r) (l : Leaf) : l ∈ q.tests ↔ l ∈ r.tests := by
  induction h with
  | refl => exact Iff.rfl
  | symm _ ih => exact ih.symm
  | trans _ _ ih ih' => exact ih.trans ih'
  | operand _ _ _ _ _ _ ih =>
    simp only [Junction.tests_node, List.flatMap_append, List.flatMap_cons, List.mem_append, ih]
  | negated _ _ _ ih => simpa only [tests] using ih
  | reorder _ h => simp only [Junction.tests_node, List.mem_flatMap, h.mem_iff]
  | flatten => simp only [Junction.tests_node, List.flatMap_append, List.flatMap_cons,
      List.append_assoc]
  | single => simp
  | notNot => simp only [tests]
  | deMorgan => simp [tests, List.flatMap_map]

/-- **Rearranging keeps the value.** -/
theorem holds_eq (h : Rearranged q r) (v : Leaf → Bool) : q.holds v = r.holds v := by
  induction h with
  | refl => rfl
  | symm _ ih => exact ih.symm
  | trans _ _ ih ih' => exact ih.trans ih'
  | operand _ _ _ _ _ _ ih =>
    simp only [Junction.holds_node, List.map_append, List.map_cons, ih]
  | negated _ _ _ ih => simp only [holds, ih]
  | reorder j h => simpa only [Junction.holds_node] using j.value_perm (h.map _)
  | flatten j =>
    simp only [Junction.holds_node, List.map_append, List.map_cons, Junction.value_flatten]
  | single => simp
  | notNot => simp [holds]
  | deMorgan j qs =>
    rw [holds, Junction.holds_node, Junction.holds_node, ← Junction.value_not, List.map_map,
      List.map_map]
    rfl

end Rearranged

end Query

/-! ## Matching -/

namespace Verdict

/-- Truth values are joined without regard to their order. -/
theorem all_map_ok {α : Type} (f : α → Bool) (xs : List α) :
    all (xs.map fun x => .ok (f x)) = .ok (xs.all f) := by
  induction xs with
  | nil => rfl
  | cons x xs ih =>
    rw [List.map_cons, all, ih, List.all_cons]
    cases f x <;> rfl

/-- Where all operands have answers, so has the disjunction. -/
theorem any_map_ok {α : Type} (f : α → Bool) (xs : List α) :
    any (xs.map fun x => .ok (f x)) = .ok (xs.any f) := by
  induction xs with
  | nil => rfl
  | cons x xs ih =>
    rw [List.map_cons, any, ih, List.any_cons]
    cases f x <;> rfl

/-- An error of a short-circuit conjunction is that of one of its operands. -/
theorem mem_of_all_eq_error {vs : List Verdict} {e : MatchError} (h : all vs = .error e) :
    .error e ∈ vs := by
  induction vs with
  | nil => cases h
  | cons v vs ih =>
    rcases v with e' | (_ | _)
    · cases h
      exact List.mem_cons_self
    · cases h
    · exact List.mem_cons_of_mem _ (ih h)

/-- An error of a short-circuit disjunction is that of one of its operands. -/
theorem mem_of_any_eq_error {vs : List Verdict} {e : MatchError} (h : any vs = .error e) :
    .error e ∈ vs := by
  induction vs with
  | nil => cases h
  | cons v vs ih =>
    rcases v with e' | (_ | _)
    · cases h
      exact List.mem_cons_self
    · exact List.mem_cons_of_mem _ (ih h)
    · cases h

/-- A short-circuit disjunction with a truth value holds if one of its operands does. -/
theorem eq_true_iff_of_any_eq_ok {vs : List Verdict} {b : Bool} (h : any vs = .ok b) :
    b = true ↔ .ok true ∈ vs := by
  induction vs with
  | nil =>
    rw [← Except.ok.inj h]
    simp
  | cons v vs ih =>
    rcases v with e | (_ | _)
    · cases h
    · rw [ih h]
      simp
    · rw [← Except.ok.inj h]
      simp

/-- A short-circuit disjunction fails if an operand does and none of them holds. -/
theorem exists_any_eq_error {vs : List Verdict} {e : MatchError} (he : .error e ∈ vs)
    (hno : .ok true ∉ vs) : ∃ e', any vs = .error e' := by
  induction vs with
  | nil => cases he
  | cons v vs ih =>
    obtain ⟨hv, hvs⟩ := not_or.1 (mt List.mem_cons.2 hno)
    rcases v with e' | (_ | _)
    · exact ⟨e', rfl⟩
    · exact ih ((List.mem_cons.1 he).resolve_left (by simp)) hvs
    · exact absurd rfl hv

end Verdict

namespace Scope

variable (s : Scope)

/-- Whether the task passes a leaf, an error counted as no. -/
def passes (l : Leaf) : Bool :=
  match s.matchesLeaf l with
  | .ok b => b
  | .error _ => false

/-- A test with an answer passes or does not. -/
theorem matchesLeaf_eq_passes {l : Leaf} (h : ∃ b, s.matchesLeaf l = .ok b) :
    s.matchesLeaf l = .ok (s.passes l) := by
  obtain ⟨b, hb⟩ := h
  rw [passes, hb]

variable {s}

/-- **Where every test has a truth value, a query has the value of its formula.** -/
theorem evaluate_eq_holds {v : Leaf → Bool} {q : Query} (hq : q.IsFilled)
    (hv : ∀ l ∈ q.tests, s.matchesLeaf l = .ok (v l)) : s.evaluate q = .ok (q.holds v) := by
  induction hq with
  | leaf l p =>
    rw [evaluate, Query.holds]
    exact hv l (by simp [Query.tests])
  | @and qs hne _ p ih =>
    simp only [Query.tests, Query.testsOfAll_eq_flatMap, List.mem_flatMap] at hv
    have hqs : ∀ q ∈ qs, s.evaluate q = .ok (q.holds v) :=
      fun q hq => ih q hq fun l hl => hv l ⟨q, hq, hl⟩
    rw [evaluate_and s hne, List.map_congr_left hqs, Verdict.all_map_ok, Query.holds,
      Query.holdsAll_eq_all]
  | @or qs hne _ p ih =>
    simp only [Query.tests, Query.testsOfAll_eq_flatMap, List.mem_flatMap] at hv
    have hqs : ∀ q ∈ qs, s.evaluate q = .ok (q.holds v) :=
      fun q hq => ih q hq fun l hl => hv l ⟨q, hq, hl⟩
    rw [evaluate_or s hne, List.map_congr_left hqs, Verdict.any_map_ok, Query.holds,
      Query.holdsAny_eq_any]
  | not _ p ih =>
    rw [evaluate_not, ih (by simpa only [Query.tests] using hv), Query.holds]
    rfl

/-- The error of a query is that of one of its tests. -/
theorem exists_test_of_evaluate_eq_error {q : Query} {e : MatchError} (hq : q.IsFilled)
    (h : s.evaluate q = .error e) : ∃ l ∈ q.tests, s.matchesLeaf l = .error e := by
  induction hq with
  | leaf l p =>
    rw [evaluate] at h
    exact ⟨l, by simp [Query.tests], h⟩
  | @and qs hne _ p ih =>
    rw [evaluate_and s hne] at h
    obtain ⟨q, hq, he⟩ := List.mem_map.1 (Verdict.mem_of_all_eq_error h)
    obtain ⟨l, hl, hle⟩ := ih q hq he
    exact ⟨l, by simpa only [Query.tests, Query.testsOfAll_eq_flatMap] using
      List.mem_flatMap.2 ⟨q, hq, hl⟩, hle⟩
  | @or qs hne _ p ih =>
    rw [evaluate_or s hne] at h
    obtain ⟨q, hq, he⟩ := List.mem_map.1 (Verdict.mem_of_any_eq_error h)
    obtain ⟨l, hl, hle⟩ := ih q hq he
    exact ⟨l, by simpa only [Query.tests, Query.testsOfAll_eq_flatMap] using
      List.mem_flatMap.2 ⟨q, hq, hl⟩, hle⟩
  | @not q _ p ih =>
    rw [evaluate_not] at h
    rcases hq : s.evaluate q with e' | b
    · rw [hq] at h
      cases h
      simpa only [Query.tests] using ih hq
    · rw [hq] at h
      cases h

/-- Rearranged queries have the same value where every test has one. -/
theorem evaluate_rearranged {q r : Query} (hq : q.IsFilled) (h : q.Rearranged r)
    (hv : ∀ l ∈ q.tests, ∃ b, s.matchesLeaf l = .ok b) : s.evaluate r = s.evaluate q := by
  have hpasses : ∀ l ∈ q.tests, s.matchesLeaf l = .ok (s.passes l) :=
    fun l hl => s.matchesLeaf_eq_passes (hv l hl)
  rw [evaluate_eq_holds hq hpasses, h.holds_eq]
  exact evaluate_eq_holds (h.isFilled_iff.1 hq) fun l hl => hpasses l ((h.mem_tests_iff l).2 hl)

end Scope

end TaskQuery
