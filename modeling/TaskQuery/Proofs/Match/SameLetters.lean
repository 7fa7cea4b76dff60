import TaskQuery.Proofs.Match.Fields
import TaskQuery.Proofs.Match.Reach
import TaskQuery.Proofs.Text.SmallLetters

/-!
# The case of letters in a query and in a task

Without regard to letter case it does not matter in which case the ASCII letters of a query and of
a task are written.  Each filter has its own way of leaving case out: in lower case, in upper case,
letter by letter, after cutting a path or finding the tags of a line.  All of them give the same
result for texts with the same letters.

* `tagsFrom_small`, `fileName_sameLetters`, `occurs_small`: the tags of a line, the name of a file
  and the places of a phrase are found without regard to the case of ASCII letters.
* `Task.SameLetters`, `Leaf.SameLetters`, `Query.SameLetters`, `Scope.SameLetters`: tasks, tests,
  queries and scopes that differ in the case of ASCII letters only.
* `matchesLeaf_eq`: they agree on every test.
* `evaluate_sameLetters`: so they agree on every query.
-/

namespace TaskQuery

open Text

/-! ## The parts of a task -/

/-- Letter case does not decide what may stand in a tag. -/
theorem isTagChar_toLower (c : Char) : Task.isTagChar c.toLower = Task.isTagChar c :=
  apply_toLower (by decide +kernel) c

/-- The tags of a line in small letters are its tags in small letters. -/
theorem Task.tagsFrom_small (blocked : Bool) (s : List Char) :
    tagsFrom blocked (small s) = (tagsFrom blocked s).map small := by
  have hcomp : isTagChar ∘ Char.toLower = isTagChar := funext isTagChar_toLower
  induction s generalizing blocked with
  | nil => rfl
  | cons c s ih =>
    have hrun : (small s).takeWhile isTagChar = small (s.takeWhile isTagChar) := by
      rw [small, List.takeWhile_map, hcomp]
      rfl
    have hsign : c.toLower = '#' ↔ c = '#' := toLower_eq_iff (by decide)
    have hrest : tagsFrom (isWord c.toLower || c.toLower = '#') (small s) =
        (tagsFrom (isWord c || c = '#') s).map small := by
      simp only [hsign, isWord_toLower, ih]
    rw [small_cons, tagsFrom, tagsFrom, hrun, hrest]
    simp only [hsign, small_eq_nil_iff, apply_ite (List.map small), List.map_cons,
      Bool.and_eq_true, Bool.not_eq_true', decide_eq_true_eq, List.isEmpty_eq_false_iff, ne_eq]

/-- The names of files with the same letters in their paths have the same letters. -/
theorem Task.fileName_sameLetters {t t' : Task} (h : SameLetters t.path.toList t'.path.toList) :
    SameLetters t.fileName t'.fileName := by
  have hdot : ∀ c, small c = ['.'] ↔ c = ['.'] := by
    intro c
    rw [small, List.map_eq_singleton_iff]
    constructor
    · rintro ⟨d, rfl, hd⟩
      rw [(toLower_eq_iff (by decide)).1 hd]
    · rintro rfl
      exact ⟨'.', rfl, by decide⟩
  have hname : ∀ t : Task, small t.fileName =
      (((splitOn ['/'] (small t.path.toList)).filter fun c => c ≠ [] && c ≠ ['.']).getLast?).getD [] := by
    intro t
    have hcomp : (fun c => decide (c ≠ []) && decide (c ≠ ['.'])) ∘ small =
        fun c => decide (c ≠ []) && decide (c ≠ ['.']) := by
      funext c
      simp only [Function.comp_apply, ne_eq, small_eq_nil_iff, hdot]
    rw [splitOn_small, List.filter_map, hcomp, List.getLast?_map, fileName]
    cases ((splitOn ['/'] t.path.toList).filter fun c => c ≠ [] && c ≠ ['.']).getLast? <;> rfl
  rw [SameLetters, hname, hname, h.small_eq]

namespace FreeText

/-- Small letters begin with a word where the text does. -/
theorem startsWithWord_small (s : List Char) : startsWithWord (small s) = startsWithWord s := by
  cases s with
  | nil => rfl
  | cons c s => exact isWord_toLower c

/-- Small letters end in a word character where the text does. -/
theorem getLast?_any_small (s : List Char) :
    (small s).getLast?.any isWord = s.getLast?.any isWord := by
  rw [small, List.getLast?_map]
  cases s.getLast? with
  | none => rfl
  | some c => exact isWord_toLower c

/-- Small letters end in a word where the text does. -/
theorem endsWithWord_small (s : List Char) : endsWithWord (small s) = endsWithWord s := by
  have hfeed : (small s).getLast? = some '\n' ↔ s.getLast? = some '\n' := by
    rw [small, List.getLast?_map, Option.map_eq_some_iff]
    constructor
    · rintro ⟨c, hc, heq⟩
      rwa [← (toLower_eq_iff (by decide)).1 heq]
    · intro h
      exact ⟨'\n', h, by decide⟩
  have hfront : (small s).dropLast = small s.dropLast := List.map_dropLast.symm
  rw [endsWithWord, endsWithWord, getLast?_any_small, hfront, getLast?_any_small]
  simp only [hfeed]

/-- A phrase is taken off small letters as off the text. -/
theorem strip?_small (phrase s : List Char) :
    strip? equalsIgnoringCase (small phrase) (small s) =
      (strip? equalsIgnoringCase phrase s).map small := by
  fun_induction strip? equalsIgnoringCase phrase s with
  | case1 s => rfl
  | case2 => rfl
  | case3 p phrase c s hsame ih =>
    rw [small_cons, small_cons, strip?, if_pos (by rwa [equalsIgnoringCase_toLower])]
    exact ih
  | case4 p phrase c s hsame =>
    rw [small_cons, small_cons, strip?, if_neg (by rwa [equalsIgnoringCase_toLower])]
    rfl

/-- A phrase stands in front of small letters as of the text. -/
theorem standsAtFront_small (phrase : List Char) (afterWord : Bool) (s : List Char) :
    standsAtFront equalsIgnoringCase (small phrase) afterWord (small s) =
      standsAtFront equalsIgnoringCase phrase afterWord s := by
  rw [standsAtFront, standsAtFront, strip?_small, Option.any_map, startsWithWord_small,
    endsWithWord_small]
  simp only [startsWithWord_small]

/-- A phrase in small letters occurs in a text in small letters where it occurs in the text. -/
theorem occurs_small (phrase : List Char) (afterWord : Bool) (s : List Char) :
    occurs equalsIgnoringCase (small phrase) afterWord (small s) =
      occurs equalsIgnoringCase phrase afterWord s := by
  induction s generalizing afterWord with
  | nil => exact standsAtFront_small phrase afterWord []
  | cons c s ih =>
    have hfront := standsAtFront_small phrase afterWord (c :: s)
    have hrest : occurs equalsIgnoringCase (small phrase) (isWord c.toLower) (small s) =
        occurs equalsIgnoringCase phrase (isWord c) s := by
      rw [isWord_toLower, ih]
    rw [small_cons] at hfront ⊢
    rw [occurs, occurs, hfront, hrest]

end FreeText

/-! ## Tasks and queries with the same letters -/

/-- Tasks that differ in the case of ASCII letters only; days and line numbers play no part. -/
structure Task.SameLetters (t t' : Task) : Prop where
  path : Text.SameLetters t.path.toList t'.path.toList
  rawText : Text.SameLetters t.rawText.toList t'.rawText.toList
  text : Text.SameLetters t.text.toList t'.text.toList
  state : Text.SameLetters t.state.toList t'.state.toList
  priority : t.priority.Rel (fun p p' => Text.SameLetters p.toList p'.toList) t'.priority
  completed : t.completed = t'.completed

/-- Tests of free text and of fields that hold a text, with values that differ in the case of ASCII
letters only. -/
inductive Leaf.SameLetters : Leaf → Leaf → Prop where
  | term {v w : String} (h : Text.SameLetters v.toList w.toList) : SameLetters (.term v) (.term w)
  | phrase {v w : String} (h : Text.SameLetters v.toList w.toList) :
      SameLetters (.phrase v) (.phrase w)
  | field {name : String} (hname : name ∈ textFields) {v w : String}
      (h : Text.SameLetters v.toList w.toList) (exact : Bool) :
      SameLetters (.field name v exact) (.field name w exact)

/-- Queries of the same form whose tests, one by one, differ in the case of ASCII letters only. -/
inductive Query.SameLetters : Query → Query → Prop where
  | leaf {l m : Leaf} (h : l.SameLetters m) (p p' : Nat) : SameLetters (.leaf l p) (.leaf m p')
  /-- The operands are given in pairs. -/
  | node (j : Junction) {pairs : List (Query × Query)} (h : ∀ x ∈ pairs, SameLetters x.1 x.2)
      (p p' : Nat) : SameLetters (j.node (pairs.map Prod.fst) p) (j.node (pairs.map Prod.snd) p')
  | not {q r : Query} (h : SameLetters q r) (p p' : Nat) : SameLetters (.not q p) (.not r p')

/-- Scopes without regard to letter case that have the same settings, and tasks that differ in the
case of ASCII letters only. -/
structure Scope.SameLetters (s t : Scope) : Prop where
  task : s.task.SameLetters t.task
  settings : s.settings = t.settings
  insensitive : s.caseSensitive = false
  insensitive' : t.caseSensitive = false

/-- What agrees on texts with the same letters is found in both of two such rows or in none. -/
theorem any_congr_of_small {f g : List Char → Bool} {xs ys : List (List Char)}
    (h : xs.map small = ys.map small) (hfg : ∀ {a b}, Text.SameLetters a b → f a = g b) :
    xs.any f = ys.any g := by
  induction xs generalizing ys with
  | nil =>
    obtain rfl : ys = [] := List.map_eq_nil_iff.1 h.symm
    rfl
  | cons x xs ih =>
    obtain ⟨y, ys, rfl, hy, hys⟩ := List.map_eq_cons_iff.1 h.symm
    rw [List.any_cons, List.any_cons, hfg hy.symm, ih hys.symm]

/-- Of two texts with the same letters both are empty or none. -/
theorem eq_empty_iff_of_sameLetters {v w : String} (h : SameLetters v.toList w.toList) :
    v = "" ↔ w = "" := by
  rw [← String.toList_eq_nil_iff, ← String.toList_eq_nil_iff, h.eq_nil_iff]

namespace Scope

variable {s t : Scope} {v w : String} {exact : Bool}

/-- Texts with the same letters are compared as the same. -/
theorem SameLetters.fold_eq (h : s.SameLetters t) {a b : List Char} (hab : Text.SameLetters a b) :
    s.fold a = t.fold b := by
  rw [fold_of_insensitive h.insensitive, fold_of_insensitive h.insensitive']
  exact hab.congr lower_small

/-! ## Free text -/

/-- The texts in which free text is looked for have the same letters, in their order. -/
theorem SameLetters.searchable (h : s.SameLetters t) :
    s.task.searchable.map small = t.task.searchable.map small := by
  have hmap : ∀ t : Task, t.searchable.map small =
      [small t.rawText.toList, small t.text.toList, small t.path.toList, small t.fileName].filter
        (· ≠ []) := by
    intro t
    have hcomp : (fun x => decide (x ≠ [])) ∘ small = fun x => decide (x ≠ []) := by
      funext x
      simp only [Function.comp_apply, ne_eq, small_eq_nil_iff]
    change _ = ([t.rawText.toList, t.text.toList, t.path.toList, t.fileName].map small).filter _
    rw [List.filter_map, hcomp]
    rfl
  rw [hmap, hmap, h.task.rawText.small_eq, h.task.text.small_eq, h.task.path.small_eq,
    (Task.fileName_sameLetters h.task.path).small_eq]

/-- Words with the same letters are found alike. -/
theorem SameLetters.hasTerm_eq (h : s.SameLetters t) (hvw : Text.SameLetters v.toList w.toList) :
    s.hasTerm v = t.hasTerm w := by
  rw [hasTerm, hasTerm, h.fold_eq hvw]
  simp only [ne_eq, eq_empty_iff_of_sameLetters hvw]
  congr 1
  apply any_congr_of_small h.searchable
  intro a b hab
  rw [h.fold_eq hab]

/-- Phrases with the same letters are found alike. -/
theorem SameLetters.hasPhrase_eq (h : s.SameLetters t) (hvw : Text.SameLetters v.toList w.toList) :
    s.hasPhrase v = t.hasPhrase w := by
  rw [hasPhrase, hasPhrase, sameChar_of_insensitive h.insensitive,
    sameChar_of_insensitive h.insensitive']
  simp only [ne_eq, eq_empty_iff_of_sameLetters hvw]
  congr 1
  apply any_congr_of_small h.searchable
  intro a b hab
  rw [← FreeText.occurs_small v.toList, ← FreeText.occurs_small w.toList, hvw.small_eq,
    hab.small_eq]

/-! ## Fields -/

variable {a b : List Char}

/-- Paths with the same letters are found alike. -/
theorem SameLetters.matchesPath_eq (h : s.SameLetters t) (hab : Text.SameLetters a b) :
    s.matchesPath a exact = t.matchesPath b exact := by
  have hwanted : s.fold (strip (· = '/') a) = t.fold (strip (· = '/') b) :=
    h.fold_eq (hab.strip (toLower_eq_sign (by decide)))
  rw [matchesPath, matchesPath, hwanted, h.fold_eq h.task.path]
  simp only [eq_empty_iff_of_sameLetters h.task.path]

/-- Files with the same letters are found alike. -/
theorem SameLetters.matchesFile_eq (h : s.SameLetters t) (hab : Text.SameLetters a b) :
    s.matchesFile a exact = t.matchesFile b exact := by
  have hname : Text.SameLetters s.task.fileName t.task.fileName :=
    Task.fileName_sameLetters h.task.path
  rw [matchesFile, matchesFile, h.fold_eq hab, h.fold_eq hname]
  simp only [hname.eq_nil_iff]

/-- Tags with the same letters are found alike. -/
theorem SameLetters.matchesTag_eq (h : s.SameLetters t) (hab : Text.SameLetters a b) :
    s.matchesTag a exact = t.matchesTag b exact := by
  have hwanted : s.fold (a.dropWhile (· = '#')) = t.fold (b.dropWhile (· = '#')) :=
    h.fold_eq (hab.dropWhile (toLower_eq_sign (by decide)))
  have htags : s.task.tags.map s.fold = t.task.tags.map t.fold := by
    have hsmall : ∀ raw, (Task.tagsFrom false (small raw)).map lower =
        (Task.tagsFrom false raw).map lower := by
      intro raw
      rw [Task.tagsFrom_small, List.map_map]
      exact List.map_congr_left fun tag _ => lower_small tag
    rw [fold_of_insensitive h.insensitive, fold_of_insensitive h.insensitive']
    exact h.task.rawText.congr (f := fun raw => (Task.tagsFrom false raw).map lower) hsmall
  rw [matchesTag, matchesTag, hwanted, htags]

/-- Texts with the same letters are found alike. -/
theorem SameLetters.matchesContent_eq (h : s.SameLetters t) (hab : Text.SameLetters a b) :
    s.matchesContent a exact = t.matchesContent b exact := by
  have htrim : s.fold (trim s.task.text.toList) = t.fold (trim t.task.text.toList) :=
    h.fold_eq (h.task.text.strip isBlank_toLower)
  rw [matchesContent, matchesContent, htrim, h.fold_eq hab, h.fold_eq h.task.text]
  simp only [h.task.text.eq_nil_iff]

/-- States with the same letters are in the same groups. -/
theorem SameLetters.inGroup_eq (h : s.SameLetters t) : s.inGroup = t.inGroup := by
  have hword : upperString s.task.state = upperString t.task.state := by
    rw [upperString, upperString, h.task.state.congr upper_small]
  funext group
  rw [inGroup, inGroup, hword, h.settings, h.task.completed]

/-- States with the same letters are found alike. -/
theorem SameLetters.matchesState_eq (h : s.SameLetters t) (hab : Text.SameLetters a b) :
    s.matchesState a exact = t.matchesState b exact := by
  rw [matchesState, matchesState, h.fold_eq hab, h.fold_eq h.task.state, hab.congr lower_small,
    h.inGroup_eq]

/-- Priorities with the same letters have one form. -/
theorem form_eq_of_sameLetters (hvw : Text.SameLetters v.toList w.toList) :
    Priority.form v = Priority.form w := by
  have htrim : lower (trim v.toList) = lower (trim w.toList) :=
    (hvw.strip isBlank_toLower).congr lower_small
  rw [Priority.form, Priority.form, htrim]

/-- Priorities with the same letters are found alike. -/
theorem SameLetters.matchesPriority_eq (h : s.SameLetters t)
    (hvw : Text.SameLetters v.toList w.toList) : s.matchesPriority v = t.matchesPriority w := by
  have hnormalize : ∀ {p q : String}, Text.SameLetters p.toList q.toList →
      s.settings.spellings.normalize (some p) = t.settings.spellings.normalize (some q) := by
    intro p q hpq
    rw [h.settings]
    simp only [Spellings.normalize, Option.bind_eq_bind, Option.bind_some,
      form_eq_of_sameLetters hpq]
  have hnone : ∀ k : Spellings, k.normalize none = none := fun _ => rfl
  have hpriority := h.task.priority
  rw [matchesPriority, matchesPriority, form_eq_of_sameLetters hvw, hnormalize hvw]
  generalize s.task.priority = x at hpriority ⊢
  generalize t.task.priority = y at hpriority ⊢
  cases hpriority with
  | none => rw [hnone, hnone]
  | some hpq =>
    rw [hnormalize hpq]
    simp only [Option.all_some, eq_empty_iff_of_sameLetters hpq]

/-- The filters on texts agree. -/
theorem SameLetters.matchesField_eq (h : s.SameLetters t) {name : String} (hname : name ∈ textFields)
    (hvw : Text.SameLetters v.toList w.toList) :
    s.matchesField name v exact = t.matchesField name w exact := by
  obtain ⟨field, hfield, hscheduled, hdeadline⟩ := exists_field_of_mem_textFields hname
  rw [matchesField, matchesField, hfield]
  simp only [eq_empty_iff_of_sameLetters hvw]
  by_cases hempty : w = ""
  · rw [if_pos hempty, if_pos hempty]
  rw [if_neg hempty, if_neg hempty]
  cases field with
  | path => exact congrArg Except.ok (h.matchesPath_eq hvw)
  | file => exact congrArg Except.ok (h.matchesFile_eq hvw)
  | tag => exact congrArg Except.ok (h.matchesTag_eq hvw)
  | content => exact congrArg Except.ok (h.matchesContent_eq hvw)
  | state => exact congrArg Except.ok (h.matchesState_eq hvw)
  | priority => exact congrArg Except.ok (h.matchesPriority_eq hvw)
  | scheduled => exact absurd rfl hscheduled
  | deadline => exact absurd rfl hdeadline

/-! ## Tests and queries -/

/-- Tests that differ in the case of ASCII letters only give the same result. -/
theorem SameLetters.matchesLeaf_eq (h : s.SameLetters t) {l m : Leaf} (hlm : l.SameLetters m) :
    s.matchesLeaf l = t.matchesLeaf m := by
  rw [matchesLeaf, matchesLeaf, h.settings]
  congr 1
  cases hlm with
  | term hvw => exact congrArg Except.ok (h.hasTerm_eq hvw)
  | phrase hvw => exact congrArg Except.ok (h.hasPhrase_eq hvw)
  | field hname hvw exact => exact h.matchesField_eq hname hvw

/-- **Without regard to letter case the case of ASCII letters plays no part**, neither in the values
of a query nor in the texts of a task.  Free text and the fields that hold a text are compared
so. -/
theorem evaluate_sameLetters (h : s.SameLetters t) {q r : Query} (hqr : q.SameLetters r) :
    s.evaluate q = t.evaluate r := by
  induction hqr with
  | leaf hlm p p' => exact h.matchesLeaf_eq hlm
  | @node j pairs hpairs p p' ih =>
    by_cases hempty : pairs = []
    · subst hempty
      cases j <;> rfl
    · rw [j.evaluate_node s (mt List.map_eq_nil_iff.1 hempty),
        j.evaluate_node t (mt List.map_eq_nil_iff.1 hempty), List.map_map, List.map_map]
      exact congrArg j.verdict (List.map_congr_left ih)
  | not hqr p p' ih =>
    rw [evaluate, evaluate, ih]

/-- `"fix login" state:inactive priority:HIGH -tag:WORK` matches a task, and written with the other
case of every letter it matches the task written so. -/
theorem evaluate_sameLetters_login :
    let scope (task : Task) : Scope :=
      { task, caseSensitive := false, settings := {}, properties := []
        clock := ⟨2024, 1, 10, by decide⟩ }
    let s := scope
      { path := "notes/Plan.md", rawText := "- TODO [#a] Fix Login #urgent", text := "Fix Login"
        state := "TODO", priority := some "a" }
    let t := scope
      { path := "NOTES/pLAN.MD", rawText := "- todo [#A] fIX lOGIN #URGENT", text := "fIX lOGIN"
        state := "todo", priority := some "A" }
    let query (phrase state priority tag : String) : Query :=
      .and [.leaf (.phrase phrase) 0, .leaf (.field "state" state false) 12,
        .leaf (.field "priority" priority false) 27, .not (.leaf (.field "tag" tag false) 42) 41] 12
    let q := query "fix login" "inactive" "HIGH" "WORK"
    let r := query "FIX LOGIN" "INACTIVE" "high" "work"
    s.SameLetters t ∧ q.SameLetters r ∧ s.evaluate q = .ok true ∧ t.evaluate r = .ok true := by
  intro scope s t query q r
  have htask : s.SameLetters t :=
    { task :=
        { path := by decide, rawText := by decide, text := by decide, state := by decide
          priority := .some (by decide), completed := rfl }
      settings := rfl
      insensitive := rfl
      insensitive' := rfl }
  have hquery : q.SameLetters r := by
    refine @Query.SameLetters.node .all [(_, _), (_, _), (_, _), (_, _)] ?_ 12 12
    simp only [List.forall_mem_cons, List.not_mem_nil, false_imp_iff, implies_true, and_true]
    refine ⟨.leaf (.phrase ?_) 0 0, .leaf (.field ?_ ?_ false) 12 12, .leaf (.field ?_ ?_ false) 27 27,
      .not (.leaf (.field ?_ ?_ false) 42 42) 41 41⟩ <;> decide
  have hmatch : s.evaluate q = .ok true := by decide +kernel
  refine ⟨htask, hquery, hmatch, ?_⟩
  rw [← evaluate_sameLetters htask hquery]
  exact hmatch

end Scope

end TaskQuery
