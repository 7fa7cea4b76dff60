import TaskQuery.Proofs.Match.Fields
import TaskQuery.Proofs.Match.Reach
import TaskQuery.Proofs.Text.Surroundings

/-!
# Matching without regard to letter case

Without regard to letter case the texts of the query and of the task are compared in lower case.
What matched before still does so, because the lower case of a part is a part of the lower case, as
long as no capital sigma of the part takes its form from what stands outside.

* `Leaf.sought`, `Leaf.IsSteady`: the texts that a test looks for inside other ones, and that they
  are steady.
* `matchesLeaf_insensitive`: a steady test keeps its result or becomes a match.
* `evaluate_insensitive`: so a query without negations that matches still does so, unless matching
  now goes on to a test that fails.
-/

namespace TaskQuery

open Text

namespace Verdict

/-- A result is kept, or becomes a match. -/
def Widens (v w : Verdict) : Prop := w = v ∨ w = .ok true

/-- An answer is at least as wide as itself. -/
theorem Widens.refl (v : Verdict) : Widens v v := .inl rfl

/-- An answer is wider where it is yes at least as often. -/
theorem widens_ok {a b : Bool} (h : a = true → b = true) : Widens (.ok a) (.ok b) := by
  cases a with
  | false => cases b <;> simp [Widens]
  | true => exact .inr (by rw [h rfl])

/-- Disjunctions are wider with their operands. -/
theorem Widens.orElse {v v' w w' : Verdict} (h : Widens v w) (h' : Widens v' w') :
    Widens (Verdict.orElse v v') (Verdict.orElse w w') := by
  rcases h with rfl | rfl
  · rcases w with e | (_ | _)
    · exact .refl _
    · exact h'
    · exact .refl _
  · exact .inr rfl

/-- Disjunctions of many operands are wider with them. -/
theorem widens_any {α : Type} {f g : α → Verdict} {xs : List α}
    (h : ∀ x ∈ xs, Widens (f x) (g x)) : Widens (any (xs.map f)) (any (xs.map g)) := by
  induction xs with
  | nil => exact .refl _
  | cons x xs ih =>
    obtain ⟨hx, hxs⟩ := List.forall_mem_cons.1 h
    exact hx.orElse (ih hxs)

end Verdict

/-! ## The parts of texts -/

/-- The stem of a name ends before its last dot. -/
theorem stem_append_dot {front rest : List Char} (h : '.' ∉ rest) :
    stem (front ++ '.' :: rest) = front := by
  have hcut : cut? ['.'] (front ++ '.' :: rest).reverse = some (rest.reverse, front.reverse) := by
    rw [List.reverse_append, List.reverse_cons, List.append_assoc]
    exact cut?_append (by simpa using h) [] front.reverse
  rw [stem, hcut]
  exact List.reverse_reverse front

/-- Without a dot the stem is the whole name. -/
theorem stem_of_not_mem {name : List Char} (h : '.' ∉ name) : stem name = name := by
  rw [stem, cut?_of_not_mem [] (by simpa using h)]

/-- The stem of a file name is put in lower case on its own when it is steady: the dot behind it is
kept, and no other one comes in. -/
theorem lower_stem {name : List Char} (h : isSteady (stem name) = true) :
    lower (stem name) = stem (lower name) := by
  by_cases hdot : '.' ∈ name
  · obtain ⟨rest, front, hname, hrest⟩ := List.eq_append_cons_of_mem (List.mem_reverse.2 hdot)
    obtain rfl : name = front.reverse ++ '.' :: rest.reverse := by
      rw [← List.reverse_reverse name, hname]
      simp
    rw [← List.mem_reverse] at hrest
    rw [stem_append_dot hrest] at h ⊢
    have hsign : IsSign '.' := by decide
    have hlower : lower (front.reverse ++ '.' :: rest.reverse) = lower front.reverse ++
        '.' :: lowerAfter ('.' :: (front.reverse.reverse ++ [])) rest.reverse := by
      rw [lower, lowerAfter_append, isSteady_iff.1 h, lowerAfter, if_neg (by decide),
        lowerChar_of_isSign hsign, List.singleton_append]
    rw [hlower, stem_append_dot (mt (mem_of_mem_lowerAfter hsign) hrest)]
  · rw [stem_of_not_mem hdot, stem_of_not_mem (mt (mem_of_mem_lower (by decide)) hdot)]

/-- The text that a filter on a field looks for inside a text of the task; an exact filter looks for
a whole text, be it the stem of the file name. -/
def Field.sought (value : List Char) (exact : Bool) : Field → List (List Char)
  | file => [value]
  | tag => if exact then [] else [value.dropWhile (· = '#')]
  | content => if exact then [] else [value]
  | path | state | priority | scheduled | deadline => []

/-- The texts that a test looks for inside other texts. -/
def Leaf.sought : Leaf → List (List Char)
  | .term value => [value.toList]
  | .field name value exact => (Field.ofName? name).toList.flatMap (Field.sought value.toList exact)
  | .property text exact =>
    if exact then []
    else (Leaf.propertyValue? text).toList.flatMap fun wanted => Property.alternatives wanted.toList
  | .phrase _ | .range _ _ _ _ _ => []

/-- The texts that a test looks for have the same lower case wherever they stand. -/
def Leaf.IsSteady (l : Leaf) : Prop := ∀ w ∈ l.sought, isSteady w = true

/-- Whether a test is steady can be checked. -/
instance (l : Leaf) : Decidable l.IsSteady :=
  inferInstanceAs (Decidable (∀ w ∈ l.sought, isSteady w = true))

namespace Scope

variable {s : Scope} {value : List Char} {exact : Bool}

/-- The scope with or without regard to letter case. -/
def withCase (s : Scope) (caseSensitive : Bool) : Scope := { s with caseSensitive }

/-- Where letter case counts, texts are compared as they are. -/
@[simp] theorem fold_withCase_true (text : List Char) : (s.withCase true).fold text = text := rfl

/-- Where letter case does not count, texts are compared in lower case. -/
@[simp] theorem fold_withCase_false (text : List Char) :
    (s.withCase false).fold text = lower text := rfl

/-- A word that is found with letter case is found without. -/
theorem hasTerm_insensitive {value : String} (h : isSteady value.toList = true)
    (hm : (s.withCase true).hasTerm value = true) : (s.withCase false).hasTerm value = true := by
  rw [hasTerm_iff] at hm ⊢
  obtain ⟨hne, text, htext, hc⟩ := hm
  exact ⟨hne, text, htext, lower_infix_of_isSteady h hc⟩

/-! ## Phrases -/

/-- A phrase in front is found by a weaker comparison too. -/
theorem strip?_mono {same same' : Char → Char → Bool}
    (h : ∀ p c, same p c = true → same' p c = true) {phrase text rest : List Char}
    (hs : FreeText.strip? same phrase text = some rest) :
    FreeText.strip? same' phrase text = some rest := by
  fun_induction FreeText.strip? same phrase text with
  | case1 text => exact hs
  | case2 => cases hs
  | case3 p ps c cs hsame ih =>
    rw [FreeText.strip?, if_pos (h p c hsame)]
    exact ih hs
  | case4 => cases hs

/-- A phrase anywhere is found by a weaker comparison too. -/
theorem occurs_mono {same same' : Char → Char → Bool}
    (h : ∀ p c, same p c = true → same' p c = true) {phrase text : List Char} {afterWord : Bool}
    (ho : FreeText.occurs same phrase afterWord text = true) :
    FreeText.occurs same' phrase afterWord text = true := by
  have hfront : ∀ {afterWord text}, FreeText.standsAtFront same phrase afterWord text = true →
      FreeText.standsAtFront same' phrase afterWord text = true := by
    intro afterWord text hf
    simp only [FreeText.standsAtFront, Bool.and_eq_true, Option.any_eq_true] at hf ⊢
    obtain ⟨hword, rest, hrest, hend⟩ := hf
    exact ⟨hword, rest, strip?_mono h hrest, hend⟩
  induction text generalizing afterWord with
  | nil => exact hfront ho
  | cons c cs ih =>
    simp only [FreeText.occurs, Bool.or_eq_true] at ho ⊢
    exact ho.imp hfront ih

/-- A character equals itself in any letter case. -/
theorem equalsIgnoringCase_self (c : Char) : equalsIgnoringCase c c = true := by
  simp [equalsIgnoringCase]

/-- A phrase that is found with letter case is found without. -/
theorem hasPhrase_insensitive {value : String} (hm : (s.withCase true).hasPhrase value = true) :
    (s.withCase false).hasPhrase value = true := by
  have hsame : ∀ p c, (s.withCase true).sameChar p c = true →
      (s.withCase false).sameChar p c = true := by
    intro p c h
    obtain rfl : p = c := eq_of_beq h
    exact equalsIgnoringCase_self p
  simp only [hasPhrase, Bool.and_eq_true, List.any_eq_true] at hm ⊢
  obtain ⟨hne, text, htext, ho⟩ := hm
  exact ⟨hne, text, htext, occurs_mono hsame ho⟩

/-! ## Fields -/

/-- A path that is found with letter case is found without. -/
theorem matchesPath_insensitive (hm : (s.withCase true).matchesPath value exact = true) :
    (s.withCase false).matchesPath value exact = true := by
  rw [matchesPath_iff] at hm ⊢
  obtain ⟨hpath, hvalue, hwhere⟩ := hm
  refine ⟨hpath, lower_ne_nil hvalue, ?_⟩
  obtain heq | ⟨rest, heq⟩ | ⟨hexact, hfolders⟩ := hwhere
  · exact .inl (congrArg lower heq)
  · refine .inr (.inl ⟨lower rest, ?_⟩)
    rw [fold_withCase_true, fold_withCase_true, List.append_assoc, List.singleton_append] at heq
    rw [fold_withCase_false, fold_withCase_false, List.append_assoc, List.singleton_append,
      ← lower_append_slash, heq]
    rfl
  · refine .inr (.inr ⟨hexact, ?_⟩)
    rw [fold_withCase_false, fold_withCase_false, splitOn_lower, splitOn_lower, ← List.map_dropLast]
    exact hfolders.map lower

/-- A file that is found with letter case is found without. -/
theorem matchesFile_insensitive (h : isSteady value = true)
    (hm : (s.withCase true).matchesFile value exact = true) :
    (s.withCase false).matchesFile value exact = true := by
  rw [matchesFile_iff] at hm ⊢
  obtain ⟨hname, hm⟩ := hm
  refine ⟨hname, ?_⟩
  cases exact with
  | false => exact lower_infix_of_isSteady h hm
  | true =>
    obtain heq | heq := hm
    · exact .inl (congrArg lower heq)
    · refine .inr ?_
      obtain rfl : value = stem s.task.fileName := heq
      exact lower_stem h

/-- A tag that is found with letter case is found without. -/
theorem matchesTag_insensitive (h : exact = false → isSteady (value.dropWhile (· = '#')) = true)
    (hm : (s.withCase true).matchesTag value exact = true) :
    (s.withCase false).matchesTag value exact = true := by
  rw [matchesTag_iff] at hm ⊢
  obtain ⟨hne, hm⟩ := hm
  refine ⟨lower_ne_nil hne, ?_⟩
  cases exact with
  | false =>
    obtain ⟨tag, htag, hc⟩ := hm
    exact ⟨tag, htag, lower_infix_of_isSteady (h rfl) hc⟩
  | true =>
    obtain ⟨tag, htag, heq⟩ := hm
    exact ⟨tag, htag, congrArg lower heq⟩

/-- A text that is found with letter case is found without. -/
theorem matchesContent_insensitive (h : exact = false → isSteady value = true)
    (hm : (s.withCase true).matchesContent value exact = true) :
    (s.withCase false).matchesContent value exact = true := by
  rw [matchesContent_iff] at hm ⊢
  obtain ⟨hne, hm⟩ := hm
  refine ⟨hne, ?_⟩
  cases exact with
  | false => exact lower_infix_of_isSteady (h rfl) hm
  | true => exact congrArg lower hm

/-- A state that is found with letter case is found without. -/
theorem matchesState_insensitive (hm : (s.withCase true).matchesState value exact = true) :
    (s.withCase false).matchesState value exact = true := by
  rw [matchesState_iff] at hm ⊢
  exact hm.imp_left (congrArg lower)

/-- A text that compares with letter case compares without. -/
theorem comparesText_insensitive {text : List Char} (h : exact = false → isSteady value = true)
    (hm : (s.withCase true).comparesText value text exact = true) :
    (s.withCase false).comparesText value text exact = true := by
  rw [comparesText_iff] at hm ⊢
  cases exact with
  | false => exact lower_infix_of_isSteady (h rfl) hm
  | true => exact congrArg lower hm

/-! ## Tests -/

/-- The mode does not change which answer is wider. -/
theorem widens_lenient {v w : Verdict} (h : v.Widens w) (strict : Bool) :
    Verdict.Widens (lenient strict v) (lenient strict w) := by
  rcases h with rfl | rfl
  · exact .refl _
  · exact .inr rfl

/-- A property without a text has none in both scopes. -/
theorem widens_matchesPropertyText {s t : Scope} {wanted : List Char} {actual : Value}
    {exact exact' : Bool} (hnesting : s.settings.nesting = t.settings.nesting)
    (h : ∀ text, s.comparesText wanted text exact = true →
      t.comparesText wanted text exact' = true) :
    Verdict.Widens (s.matchesPropertyText wanted actual exact)
      (t.matchesPropertyText wanted actual exact') := by
  cases htext : actual.toText s.settings.nesting with
  | error fault =>
    rw [matchesPropertyText_of_fault htext, matchesPropertyText_of_fault (hnesting ▸ htext)]
    exact .refl _
  | ok text =>
    rw [matchesPropertyText_of_toText htext, matchesPropertyText_of_toText (hnesting ▸ htext)]
    exact Verdict.widens_ok (h text)

/-- A value that matches with letter case matches without. -/
theorem matchesValue_insensitive {actual : Value} (h : exact = false → isSteady value = true) :
    Verdict.Widens ((s.withCase true).matchesValue value actual exact)
      ((s.withCase false).matchesValue value actual exact) := by
  obtain ⟨b, hb⟩ | ⟨-, htext⟩ := matchesValue_cases value actual
  · rw [hb, hb]
    exact .refl _
  · rw [htext, htext]
    exact .orElse (.refl _) (widens_matchesPropertyText rfl fun _ => comparesText_insensitive h)

/-- A property keeps its result or becomes a match when each value does so for each alternative. -/
theorem widens_matchesProperty {s t : Scope} {text : String} {exact exact' : Bool}
    (hproperties : s.properties = t.properties)
    (h : ∀ value, Leaf.propertyValue? text = some value →
      ∀ wanted ∈ Property.alternatives value.toList, ∀ actual,
        Verdict.Widens (s.matchesValue wanted actual exact) (t.matchesValue wanted actual exact')) :
    Verdict.Widens (s.matchesProperty text exact) (t.matchesProperty text exact') := by
  cases hvalue : Leaf.propertyValue? text with
  | none =>
    rw [matchesProperty, matchesProperty, hvalue, hproperties]
    cases t.properties.get? (Leaf.propertyKey text) <;> exact .refl _
  | some value =>
    rw [matchesProperty_eq_any s hvalue, matchesProperty_eq_any t hvalue]
    apply Verdict.widens_any
    intro wanted hwanted
    rw [matchesAlternative, matchesAlternative, valuesUnder, valuesUnder, hproperties]
    apply Verdict.widens_any
    intro actual _
    exact h value hvalue wanted hwanted actual

/-- A property that matches with letter case matches without. -/
theorem matchesProperty_insensitive {text : String}
    (h : (Leaf.property text exact).IsSteady) :
    Verdict.Widens ((s.withCase true).matchesProperty text exact)
      ((s.withCase false).matchesProperty text exact) := by
  have hproperties : (s.withCase true).properties = (s.withCase false).properties := rfl
  apply widens_matchesProperty hproperties
  intro value hvalue wanted hwanted actual
  apply matchesValue_insensitive
  intro hexact
  apply h
  rw [Leaf.sought, hexact, hvalue, if_neg Bool.false_ne_true]
  simpa using hwanted

/-- A field that matches with letter case matches without. -/
theorem matchesField_insensitive {name value : String}
    (h : (Leaf.field name value exact).IsSteady) :
    Verdict.Widens ((s.withCase true).matchesField name value exact)
      ((s.withCase false).matchesField name value exact) := by
  unfold matchesField
  cases hfield : Field.ofName? name with
  | none => exact .refl _
  | some field =>
    have hsought : ∀ w ∈ field.sought value.toList exact, isSteady w = true := fun w hw =>
      h w (by simpa [Leaf.sought, hfield] using hw)
    by_cases hvalue : value = ""
    · simp only [hvalue, if_true]
      exact .refl _
    simp only [hvalue, if_false]
    cases field with
    | path => exact Verdict.widens_ok matchesPath_insensitive
    | file =>
      exact Verdict.widens_ok (matchesFile_insensitive (hsought _ (List.mem_singleton_self _)))
    | tag =>
      refine Verdict.widens_ok (matchesTag_insensitive fun hexact => hsought _ ?_)
      simp [Field.sought, hexact]
    | content =>
      refine Verdict.widens_ok (matchesContent_insensitive fun hexact => hsought _ ?_)
      simp [Field.sought, hexact]
    | state => exact Verdict.widens_ok matchesState_insensitive
    | priority | scheduled | deadline => exact .refl _

/-- **Without regard to letter case a test keeps its result or becomes a match**, as long as the
texts that it looks for are steady. -/
theorem matchesLeaf_insensitive {l : Leaf} (h : l.IsSteady) :
    Verdict.Widens ((s.withCase true).matchesLeaf l) ((s.withCase false).matchesLeaf l) := by
  refine widens_lenient ?_ s.settings.strict
  cases l with
  | term value =>
    exact Verdict.widens_ok (hasTerm_insensitive (h _ (List.mem_singleton_self _)))
  | phrase value => exact Verdict.widens_ok hasPhrase_insensitive
  | field name value exact => exact matchesField_insensitive h
  | property text exact => exact matchesProperty_insensitive h
  | range name start stop startExact stopExact => exact .refl _

end Scope

/-! ## Queries -/

namespace Query

/-- Nothing is negated. -/
inductive IsPositive : Query → Prop where
  | leaf (l : Leaf) (p : Nat) : IsPositive (.leaf l p)
  | node (j : Junction) {qs : List Query} (h : ∀ q ∈ qs, IsPositive q) (p : Nat) :
      IsPositive (j.node qs p)

end Query

/-- A row of results does not turn from a match into none when none of its results does. -/
theorem Junction.verdict_ne_false (j : Junction) {α : Type} {f g : α → Verdict} {xs : List α}
    (h : ∀ x ∈ xs, f x = .ok true → g x ≠ .ok false) (hf : j.verdict (xs.map f) = .ok true) :
    j.verdict (xs.map g) ≠ .ok false := by
  induction xs with
  | nil =>
    rw [List.map_nil] at hf ⊢
    rw [hf]
    simp
  | cons x xs ih =>
    obtain ⟨hx, hxs⟩ := List.forall_mem_cons.1 h
    rw [List.map_cons] at hf ⊢
    -- the first operand did not decide, or it was the one that matched
    have hfx : f x = .ok j.neutral ∨ f x = .ok true := by
      by_cases hfx : f x = .ok j.neutral
      · exact .inl hfx
      · rw [verdict_cons_of_ne j hfx] at hf
        exact .inr hf
    by_cases hgx : g x = .ok j.neutral
    · rw [hgx, verdict_neutral_cons]
      refine ih hxs ?_
      have hneutral : f x = .ok j.neutral := by
        refine hfx.elim id fun htrue => ?_
        cases hj : j.neutral with
        | false => exact absurd (hj ▸ hgx) (hx htrue)
        | true => exact htrue
      rwa [hneutral, verdict_neutral_cons] at hf
    · rw [verdict_cons_of_ne j hgx]
      cases hj : j.neutral with
      | false => exact hj ▸ hgx
      | true => exact hx (hfx.elim (fun h => hj ▸ h) id)

namespace Scope

variable {s : Scope} {q part : Query}

/-- Matching gets to tests of the query only. -/
theorem mem_tests_of_reaches {l : Leaf} {p : Nat} (h : s.Reaches (.leaf l p) q) : l ∈ q.tests := by
  induction h with
  | here => simp [Query.tests]
  | operand j _ _ after p ih =>
    rw [Junction.tests_node]
    exact List.mem_flatMap.2 ⟨_, by simp, ih⟩
  | negated _ p ih => simpa only [Query.tests] using ih

/-- A query without negations that matches with letter case is not refused without. -/
theorem evaluate_insensitive_ne_false (hq : q.IsPositive) (hsteady : ∀ l ∈ q.tests, l.IsSteady)
    (h : (s.withCase true).evaluate q = .ok true) :
    (s.withCase false).evaluate q ≠ .ok false := by
  induction hq with
  | leaf l p =>
    rw [evaluate] at h ⊢
    obtain heq | heq := matchesLeaf_insensitive (s := s) (hsteady l (by simp [Query.tests]))
    · rw [heq, h]
      simp
    · rw [heq]
      simp
  | @node j qs hqs p ih =>
    by_cases hne : qs = []
    · subst hne
      cases j <;> rw [Junction.node, evaluate] at h <;> cases h
    · rw [j.evaluate_node _ hne] at h ⊢
      refine j.verdict_ne_false (fun q hq => ih q hq fun l hl => hsteady l ?_) h
      rw [Junction.tests_node]
      exact List.mem_flatMap.2 ⟨q, hq, hl⟩

/-- **Without regard to letter case nothing is lost.**  A query without negations that matches, and
whose sought texts are steady, matches without regard to letter case as well, or else matching now
goes on to a part of the query that fails in both modes alike. -/
theorem evaluate_insensitive (s : Scope) {q : Query} (hq : q.IsPositive)
    (hsteady : ∀ l ∈ q.tests, l.IsSteady) (h : (s.withCase true).evaluate q = .ok true) :
    (s.withCase false).evaluate q = .ok true ∨
      ∃ part e, part.IsUndivided ∧ (s.withCase false).Reaches part q ∧
        (s.withCase true).evaluate part = .error e ∧ (s.withCase false).evaluate q = .error e := by
  rcases hinsensitive : (s.withCase false).evaluate q with e | (_ | _)
  · obtain ⟨part, hpart, hreach, he⟩ := evaluate_eq_error_iff.1 hinsensitive
    refine .inr ⟨part, e, hpart, hreach, ?_, rfl⟩
    cases part with
    | leaf l p =>
      rw [evaluate] at he ⊢
      obtain heq | heq := matchesLeaf_insensitive (s := s) (hsteady l (mem_tests_of_reaches hreach))
      · rw [← heq, he]
      · rw [heq] at he
        cases he
    | and qs p | or qs p =>
      obtain rfl : qs = [] := hpart
      rw [evaluate] at he ⊢
      exact he
    | not q p => exact hpart.elim
  · exact absurd hinsensitive (evaluate_insensitive_ne_false hq hsteady h)
  · exact .inl rfl

/-- `ΣΊΣΥΦ AND tag:A` matches a task with `ΣΊΣΥΦΟΣ` and the tag `#A`, with and without regard to
letter case: the capital sigmas have letters behind them in the query already. -/
theorem evaluate_insensitive_sisyphus :
    let s : Scope :=
      { task := { path := "a.md", rawText := "ΣΊΣΥΦΟΣ #A" }, caseSensitive := true, settings := {}
        properties := [], clock := ⟨2024, 1, 10, by decide⟩ }
    let q : Query := .and [.leaf (.term "ΣΊΣΥΦ") 0, .leaf (.field "tag" "A" false) 6] 6
    q.IsPositive ∧ (∀ l ∈ q.tests, l.IsSteady) ∧ (s.withCase true).evaluate q = .ok true ∧
      (s.withCase false).evaluate q = .ok true := by
  intro s q
  have hq : q.IsPositive := by
    refine .node .all (List.forall_mem_cons.2 ⟨.leaf _ 0, List.forall_mem_singleton.2 (.leaf _ 6)⟩) 6
  have hsteady : ∀ l ∈ q.tests, l.IsSteady := by decide +kernel
  have hsensitive : (s.withCase true).evaluate q = .ok true := by decide +kernel
  refine ⟨hq, hsteady, hsensitive, ?_⟩
  refine (evaluate_insensitive s hq hsteady hsensitive).resolve_right ?_
  rintro ⟨-, e, -, -, -, he⟩
  -- neither of the tests fails
  have hpasses : ∀ l ∈ q.tests, (s.withCase false).matchesLeaf l = .ok true := by decide +kernel
  have hfilled : q.IsFilled := .and (List.cons_ne_nil _ _)
    (List.forall_mem_cons.2 ⟨.leaf _ 0, List.forall_mem_singleton.2 (.leaf _ 6)⟩) 6
  obtain ⟨l, hl, hle⟩ := exists_test_of_evaluate_eq_error hfilled he
  rw [hpasses l hl] at hle
  cases hle

/-- A match with regard to letter case can be an error without: in strict mode
`foo color:red OR bar` matches the task `Foo bar`, in which there is no `foo`; once `Foo` counts as
`foo`, matching goes on to the field that does not exist. -/
theorem not_all_insensitive :
    ¬∀ (s : Scope) (q : Query), q.IsPositive → (s.withCase true).evaluate q = .ok true →
      (s.withCase false).evaluate q = .ok true := by
  intro h
  have hq : Query.IsPositive (.or [.and [.leaf (.term "foo") 0,
      .leaf (.field "color" "red" false) 4] 4, .leaf (.term "bar") 17] 14) := by
    refine .node .any (List.forall_mem_cons.2
      ⟨.node .all ?_ 4, List.forall_mem_singleton.2 (.leaf _ 17)⟩) 14
    exact List.forall_mem_cons.2 ⟨.leaf _ 0, List.forall_mem_singleton.2 (.leaf _ 4)⟩
  have htrue := h
    { task := { path := "a.md", rawText := "Foo bar" }, caseSensitive := true
      settings := { strict := true }, properties := [], clock := ⟨2024, 1, 10, by decide⟩ }
    _ hq (by decide +kernel)
  revert htrue
  decide +kernel

end Scope

end TaskQuery
