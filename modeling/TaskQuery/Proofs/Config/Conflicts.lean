import TaskQuery.Proofs.Config.ReadBack
import TaskQuery.Proofs.Task.Keywords

/-!
# Keywords that are builtin keywords of another group

A configuration may add a word to a group that is a builtin keyword of another group.  It can be used
all the same, and something is said of it.

* `run_validate_keywords`: the words for the groups never decide whether a configuration can be used,
  they only add what is said of them.
* `mem_conflicts_iff`: of which words something is said.
* `validate_warns_iff`: these are the words that put a builtin keyword of another group into the
  group, unless they have blanks at their ends.
-/

namespace TaskQuery.Config

open Text

variable {c : Config}

/-! ## What is said -/

/-- Under different names, a list is found under its own. -/
theorem lookup_eq_some_of_mem {lists : WordLists} {name : String} {words : List String}
    (hkeys : (lists.map Prod.fst).Nodup) (h : (name, words) ∈ lists) :
    lists.lookup name = some words := by
  obtain ⟨front, back, rfl⟩ := List.append_of_mem h
  refine List.lookup_eq_some_iff.2 ⟨front, back, rfl, fun l hl => bne_iff_ne.2 ?_⟩
  rintro rfl
  rw [List.map_append, List.map_cons, List.nodup_append] at hkeys
  exact hkeys.2.2 l.1 (List.mem_map_of_mem hl) l.1 List.mem_cons_self rfl

/-- Something is said of the words under a name that are builtin keywords of another group as they
stand, but for their letter case. -/
theorem mem_conflicts_iff {name word : String} {owner : KeywordGroup} :
    .builtinElsewhere name word owner ∈ c.conflicts ↔
      (∃ words, (name, words) ∈ c.keywords ∧ word ∈ words) ∧ owner.name ≠ name ∧
        Keywords.builtin.groupOf? word = some owner := by
  unfold conflicts
  simp only [List.mem_flatMap, List.mem_filterMap]
  constructor
  · rintro ⟨⟨name', words⟩, hlist, word', hword, hsaid⟩
    split at hsaid
    · next owner' howner =>
      split at hsaid
      · cases hsaid
      · next hne =>
        obtain ⟨rfl, rfl, rfl⟩ := ConfigWarning.builtinElsewhere.inj (Option.some.inj hsaid)
        exact ⟨⟨words, hlist, hword⟩, hne, howner⟩
    · cases hsaid
  · rintro ⟨⟨words, hlist, hword⟩, hne, howner⟩
    refine ⟨(name, words), hlist, word, hword, ?_⟩
    simp only [howner, if_neg hne]

/-! ## Validation -/

/-- The configuration without words for the groups. -/
def withoutKeywords (c : Config) : Config := { c with keywords := [] }

/-- The configuration with the words of another one, and what is said of these. -/
def addKeywordsOf (c : Config) (r : Config × List ConfigWarning) : Config × List ConfigWarning :=
  ({ r.1 with keywords := c.keywords }, r.2 ++ c.conflicts)

/-- The check of the keywords adds to what the check of all else gives. -/
theorem checked_withoutKeywords (c : Config) (isThere : Bool) :
    c.checked isThere = (c.withoutKeywords.checked isThere).map c.addKeywordsOf := by
  have hweek : c.withoutKeywords.checkWeekStart = c.checkWeekStart := rfl
  have hnone : c.withoutKeywords.conflicts = [] := rfl
  unfold checked
  rw [hweek, hnone]
  cases c.checkWeekStart with
  | error e => rfl
  | ok _ =>
    refine congrArg Except.ok ?_
    rw [addKeywordsOf, List.append_nil]
    rfl

/-- Resolving the path has nothing to do with the keywords. -/
theorem resolve_withoutKeywords (c : Config) (f : Folders) :
    c.withoutKeywords.resolve f = (c.resolve f).map withoutKeywords := by
  have hfile : c.withoutKeywords.tasksFile = c.tasksFile := rfl
  unfold resolve
  rw [hfile]
  cases c.tasksFile with
  | none => rfl
  | some p =>
    dsimp only
    cases f.resolve p <;> rfl

/-- The words for the groups never decide whether a configuration can be used, and what is said of
them comes to the rest. -/
theorem run_validate_withoutKeywords (c : Config) (f : Folders) (t : FileTree) :
    ((c.validate f).run t).1 = ((c.withoutKeywords.validate f).run t).1.map c.addKeywordsOf := by
  unfold validate
  rw [resolve_withoutKeywords]
  cases hresolve : c.resolve f with
  | error e => rfl
  | ok c' =>
    obtain ⟨file, rfl⟩ := resolve_eq_ok hresolve
    cases file with
    | none => exact checked_withoutKeywords { c with tasksFile := none } true
    | some p =>
      have hchecked := checked_withoutKeywords { c with tasksFile := some p }
      dsimp only [Except.map, withoutKeywords]
      rw [Access.run, Access.run, Access.run, Access.run]
      cases (t.stateOf p).isThere with
      | error e => rfl
      | ok isThere => exact hchecked isThere

/-- A configuration that can be used is told apart from what is said of the path alone. -/
theorem checked_eq_ok {c' : Config} {warnings : List ConfigWarning} {isThere : Bool}
    (h : c.checked isThere = .ok (c', warnings)) :
    c' = c ∧ c.weekStartsOn ∈ ["monday", "sunday"] ∧ ∃ missing,
      warnings = missing ++ c.conflicts ∧ ∀ w ∈ missing, ∃ p, w = .noTasksFile p := by
  unfold checked checkWeekStart at h
  split at h
  · next hweek =>
    obtain ⟨rfl, rfl⟩ := Prod.mk.inj (Except.ok.inj h)
    refine ⟨rfl, weekStart_mem_of_isSome hweek, _, rfl, ?_⟩
    intro w hw
    split at hw
    · next p _ =>
      split at hw
      · cases hw
      · exact ⟨p, List.mem_singleton.1 hw⟩
    · cases hw
  · cases h

/-- What is valid has been checked, with the path resolved. -/
theorem exists_checked_of_validate {f : Folders} {t : FileTree} {r : Config × List ConfigWarning}
    (h : ((c.validate f).run t).1 = .ok r) :
    ∃ file isThere, checked { c with tasksFile := file } isThere = .ok r := by
  unfold validate at h
  cases hresolve : c.resolve f with
  | error e =>
    rw [hresolve] at h
    cases h
  | ok c' =>
    obtain ⟨file, rfl⟩ := resolve_eq_ok hresolve
    rw [hresolve] at h
    cases file with
    | none => exact ⟨none, true, h⟩
    | some p =>
      dsimp only at h
      rw [Access.run, Access.run] at h
      cases hstate : (t.stateOf p).isThere with
      | error e =>
        rw [hstate] at h
        cases h
      | ok isThere =>
        rw [hstate] at h
        exact ⟨some p, isThere, h⟩

/-! ## The words that clash -/

/-- The words of a configuration are those that are looked up for the groups. -/
theorem mem_keywords_iff (hnames : ∀ l ∈ c.keywords, l.1 ∈ groupNames)
    (hkeys : (c.keywords.map Prod.fst).Nodup) {name word : String} :
    (∃ words, (name, words) ∈ c.keywords ∧ word ∈ words) ↔
      ∃ g : KeywordGroup, name = g.name ∧ word ∈ (c.keywords.lookup g.name).getD [] := by
  constructor
  · rintro ⟨words, hlist, hword⟩
    obtain ⟨g, -, hg⟩ := List.mem_map.1 (hnames _ hlist)
    refine ⟨g, hg.symm, ?_⟩
    rw [hg, lookup_eq_some_of_mem hkeys hlist]
    exact hword
  · rintro ⟨g, rfl, hword⟩
    cases hlookup : c.keywords.lookup g.name with
    | none =>
      rw [hlookup] at hword
      cases hword
    | some words =>
      rw [hlookup] at hword
      exact ⟨words, mem_of_lookup hlookup, hword⟩

/-- A word for a group whose form is a builtin keyword is a keyword of the group. -/
theorem keywordForm_mem_allKeywords {g owner : KeywordGroup} {word : String}
    (hword : word ∈ (c.keywords.lookup g.name).getD []) (h : keywordForm word ∈ owner.builtin) :
    keywordForm word ∈ c.allKeywords.wordsOf g := by
  rw [allKeywords, Keywords.mem_wordsOf_ofAdditional]
  refine .inr (List.mem_filter.2 ⟨List.mem_map_of_mem hword, decide_eq_true ?_⟩)
  intro hempty
  rw [hempty] at h
  exact absurd h (by cases owner <;> decide)

/-- **A word that puts a builtin keyword of another group into a group is told, unless it has blanks at
its ends.**  The words for the groups never decide whether a configuration can be used.  When it can,
it has settings for every day, and what is said of these words is that one of them, taken without its
blanks and in upper case, is a builtin keyword of one group and a keyword of another group, the one it
is given for; nothing is said when there are blanks to be taken off. -/
theorem validate_warns_iff (hnames : ∀ l ∈ c.keywords, l.1 ∈ groupNames)
    (hkeys : (c.keywords.map Prod.fst).Nodup) (f : Folders) (t : FileTree) :
    (∀ e, ((c.validate f).run t).1 = .error e ↔
      ((c.withoutKeywords.validate f).run t).1 = .error e) ∧
    ∀ c' warnings, ((c.validate f).run t).1 = .ok (c', warnings) → ∀ day,
      ∃ settings, c'.settings? day = some settings ∧ ∀ name word owner,
        .builtinElsewhere name word owner ∈ warnings ↔
          ∃ g : KeywordGroup, name = g.name ∧ g ≠ owner ∧
            word ∈ (c.keywords.lookup g.name).getD [] ∧ keywordForm word ∈ owner.builtin ∧
            keywordForm word ∈ settings.keywords.wordsOf g ∧ trim word.toList = word.toList := by
  constructor
  · intro e
    rw [run_validate_withoutKeywords]
    cases ((c.withoutKeywords.validate f).run t).1 <;> simp [Except.map]
  · intro c' warnings h day
    obtain ⟨file, isThere, hchecked⟩ := exists_checked_of_validate h
    obtain ⟨rfl, hweek, missing, rfl, hmissing⟩ := checked_eq_ok hchecked
    obtain ⟨settings, hsettings⟩ := Option.isSome_iff_exists.1
      (isSome_settings? (c := { c with tasksFile := file }) hweek day)
    refine ⟨settings, hsettings, fun name word owner => ?_⟩
    obtain ⟨weekStart, -, rfl⟩ := Option.map_eq_some_iff.1 hsettings
    have hsaid : .builtinElsewhere name word owner ∉ missing := by
      intro hmem
      obtain ⟨p, hp⟩ := hmissing _ hmem
      cases hp
    rw [List.mem_append, or_iff_right hsaid]
    change _ ∈ c.conflicts ↔ _
    rw [mem_conflicts_iff, mem_keywords_iff hnames hkeys, Keywords.groupOf?_builtin_eq_some_iff]
    constructor
    · rintro ⟨⟨g, rfl, hword⟩, hne, htrim, hbuiltin⟩
      refine ⟨g, rfl, ?_, hword, hbuiltin, keywordForm_mem_allKeywords hword hbuiltin, htrim⟩
      rintro rfl
      exact hne rfl
    · rintro ⟨g, rfl, hne, hword, hbuiltin, -, htrim⟩
      refine ⟨⟨g, rfl, hword⟩, fun hname => hne ?_, htrim, hbuiltin⟩
      exact KeywordGroup.eq_of_name_eq hname.symm

/-- `todo` for the active group is told of; ` TODO` is not, and stands for the same keyword. -/
theorem validate_warns_iff_todo :
    let c : Config := { keywords := [("active", [" TODO", "todo"]), ("waiting", ["wait"])] }
    let f : Folders := ⟨.ofText "/home", .ofText "/"⟩
    let t : FileTree := ⟨[], [], [], ""⟩
    (∀ l ∈ c.keywords, l.1 ∈ groupNames) ∧ (c.keywords.map Prod.fst).Nodup ∧
      ((c.validate f).run t).1 = .ok (c, [.builtinElsewhere "active" "todo" .inactive]) ∧
      "TODO" ∈ c.allKeywords.wordsOf .active ∧ keywordForm " TODO" = "TODO" := by
  intro c f t
  have hnames : ∀ l ∈ c.keywords, l.1 ∈ groupNames := by decide
  have hkeys : (c.keywords.map Prod.fst).Nodup := by decide
  have hrun : ((c.validate f).run t).1 =
      .ok (c, [.builtinElsewhere "active" "todo" .inactive]) := by decide +kernel
  obtain ⟨-, hwarns⟩ := validate_warns_iff hnames hkeys f t
  obtain ⟨settings, hsettings, hiff⟩ := hwarns c _ hrun none
  obtain ⟨weekStart, -, rfl⟩ := Option.map_eq_some_iff.1 hsettings
  obtain ⟨g, hg, -, -, -, hmem, -⟩ := (hiff "active" "todo" .inactive).1 List.mem_cons_self
  obtain rfl : .active = g := KeywordGroup.eq_of_name_eq hg
  have hform : keywordForm "todo" = "TODO" := by decide
  rw [hform] at hmem
  exact ⟨hnames, hkeys, hrun, hmem, by decide⟩

end TaskQuery.Config
