import TaskQuery.Proofs.Match.Fields
import TaskQuery.Proofs.Query.RoundTrip
import TaskQuery.Proofs.Task.Keywords

/-!
# The filter on the state

The name of a group of keywords asks for the states in the group.

* `Scope.inGroup_iff`: what is in a group.
* `Scope.matchesText_groupName`: the name of a group finds the states in it, and a state that is
  written like the name.
* `Scope.matchesText_additionalKeywords`: so what a configuration adds to the groups decides which
  states are found.
-/

namespace TaskQuery

open Text

namespace Scope

variable {s : Scope}

/-- A task is in a group by its state, or in that of the completed ones by being completed. -/
theorem inGroup_iff {g : KeywordGroup} :
    s.inGroup g = true ↔ (g = .completed ∧ s.task.completed = true) ∨
      upperString s.task.state ∈ s.settings.keywords.wordsOf g := by
  simp only [inGroup, Bool.or_eq_true, Bool.and_eq_true, decide_eq_true_eq, List.contains_iff_mem]

/-- The name of a group finds the states in it, and a state that is written like the name. -/
theorem matchesText_groupName (hcase : s.caseSensitive = false) (g : KeywordGroup) :
    s.matchesText ("state:" ++ g.name) = .ok (decide (lowerString s.task.state = g.name ∨
      (g = .completed ∧ s.task.completed = true) ∨
        upperString s.task.state ∈ s.settings.keywords.keywordsIn g.name)) := by
  have hletters : g.name ≠ "" ∧ ∀ c ∈ g.name.toList, c.isLower = true := by
    cases g <;> exact ⟨by decide, List.all_eq_true.1 rfl⟩
  have hparse : Query.parse ("state:" ++ g.name) = .ok (.leaf (.field "state" g.name false) 0) := by
    rw [show "state:" = "state" ++ ":" by decide]
    exact Query.parse_field_letters ⟨by decide, List.all_eq_true.1 rfl⟩ hletters
  have hlower : lower g.name.toList = g.name.toList := by cases g <;> decide
  have hgroup : KeywordGroup.ofName? (String.ofList (lower g.name.toList)) = some g := by
    cases g <;> decide
  have hname : lower s.task.state.toList = g.name.toList ↔ lowerString s.task.state = g.name := by
    rw [lowerString, ← String.toList_inj, String.toList_ofList]
  have hstate : s.matchesState g.name.toList false = decide (lowerString s.task.state = g.name ∨
      (g = .completed ∧ s.task.completed = true) ∨
        upperString s.task.state ∈ s.settings.keywords.keywordsIn g.name) := by
    rw [Bool.eq_iff_iff, matchesState_iff, fold_of_insensitive hcase, decide_eq_true_eq, hgroup,
      Option.any_some, inGroup_iff, Keywords.keywordsIn_name, hlower, hname, eq_self_iff_true,
      true_and]
  have hleaf : s.matchesLeaf (.field "state" g.name false) =
      .ok (s.matchesState g.name.toList false) := by
    simp only [matchesLeaf, test, matchesField, Field.ofName?, if_neg hletters.1]
    rfl
  rw [matchesText, hparse]
  exact hleaf.trans (congrArg _ hstate)

/-- **What a configuration adds to the groups decides which states are found.**  The keywords of a
group are its builtin ones and behind them the added words as they are compared, blank ones left out,
in the order of their first appearance and none of them twice; the keywords of all groups are those of
one group after the other, again none of them twice.  Without regard to letter case the name of a group
finds the states in the group, those written like the name and, for the completed group, the tasks that
are done. -/
theorem matchesText_additionalKeywords (extra : KeywordGroup → List String) :
    let k := Keywords.ofAdditional extra
    (∀ g : KeywordGroup, g.builtin <+: k.keywordsIn g.name ∧
      ListsOnce (g.builtin ++ Keywords.formsOf (extra g)) (k.keywordsIn g.name)) ∧
    ListsOnce (KeywordGroup.all.flatMap fun g => k.keywordsIn g.name) k.all ∧
    ∀ s : Scope, s.caseSensitive = false → s.settings.keywords = k → ∀ g : KeywordGroup,
      s.matchesText ("state:" ++ g.name) = .ok (decide (lowerString s.task.state = g.name ∨
        (g = .completed ∧ s.task.completed = true) ∨
          upperString s.task.state ∈ k.keywordsIn g.name)) := by
  intro k
  refine ⟨fun g => ?_, ?_, fun s hcase hkeywords g => ?_⟩
  · rw [Keywords.keywordsIn_name]
    refine ⟨⟨_, (Keywords.wordsOf_ofAdditional extra g).symm⟩, ?_⟩
    rw [Keywords.wordsOf_ofAdditional_eq_firstOccurrences]
    exact listsOnce_firstOccurrences _
  · simp only [Keywords.keywordsIn_name]
    rw [Keywords.all_ofAdditional]
    exact listsOnce_firstOccurrences _
  · rw [matchesText_groupName hcase, hkeywords]

/-- A word that is added twice is listed once, and one that is builtin elsewhere stays there too. -/
theorem matchesText_additionalKeywords_next :
    let extra : KeywordGroup → List String := fun g =>
      if g = .active then ["next ", "\u2003todo", " ", "NEXT"] else []
    let s : Scope :=
      { task := { path := "a.md", state := "nExt" }, caseSensitive := false
        settings := { keywords := .ofAdditional extra }, properties := []
        clock := ⟨2025, 6, 1, by decide⟩ }
    s.caseSensitive = false ∧ s.settings.keywords = .ofAdditional extra ∧
      s.settings.keywords.keywordsIn "active" = ["DOING", "NOW", "IN-PROGRESS", "NEXT", "TODO"] ∧
      s.settings.keywords.keywordsIn "inactive" = ["TODO", "LATER"] ∧
      s.settings.keywords.all = ["DOING", "NOW", "IN-PROGRESS", "NEXT", "TODO", "LATER", "WAIT",
        "WAITING", "DONE", "CANCELLED", "CANCELED", "ARCHIVED"] ∧
      s.matchesText "state:active" = .ok true ∧ s.matchesText "state:inactive" = .ok false := by
  intro extra s
  obtain ⟨-, -, hmatches⟩ := matchesText_additionalKeywords extra
  refine ⟨rfl, rfl, by decide, by decide, by decide +kernel, ?_, ?_⟩
  · exact (hmatches s rfl rfl .active).trans (congrArg _ (by decide))
  · exact (hmatches s rfl rfl .inactive).trans (congrArg _ (by decide))

end Scope

end TaskQuery
