import TaskQuery.Match.Query

/-!
# What the filters on texts ask

The tests on the texts of a task as propositions: where a text has to be equal to another one, and
where it has to be a part of it.

* `textFields`: the fields that hold a text.
* `fold_of_insensitive`, `sameChar_of_insensitive`: how texts and characters are compared without
  regard to letter case.
* `hasTerm_iff`, `matchesPath_iff`, `matchesFile_iff`, `matchesTag_iff`, `matchesContent_iff`,
  `matchesState_iff`, `comparesText_iff`.
-/

namespace TaskQuery

/-- The fields that hold a text. -/
def textFields : List String := ["path", "file", "tag", "content", "state", "priority"]

/-- The text fields exist and hold no dates. -/
theorem exists_field_of_mem_textFields {name : String} (h : name ∈ textFields) :
    ∃ field, Field.ofName? name = some field ∧ field ≠ .scheduled ∧ field ≠ .deadline := by
  have hall : ∀ name ∈ textFields, ∃ field, Field.ofName? name = some field ∧
      field ≠ .scheduled ∧ field ≠ .deadline := by simp [textFields, Field.ofName?]
  exact hall name h

namespace Scope

open Text

variable (s : Scope) (value : List Char) (exact : Bool)

variable {s} in
/-- Where letter case does not count, texts are compared in lower case. -/
theorem fold_of_insensitive (h : s.caseSensitive = false) : s.fold = lower := by
  funext text
  rw [fold, h, if_neg Bool.false_ne_true]

variable {s} in
/-- Where letter case does not count, characters are compared without it. -/
theorem sameChar_of_insensitive (h : s.caseSensitive = false) : s.sameChar = equalsIgnoringCase := by
  funext p c
  rw [sameChar, h, if_neg Bool.false_ne_true]

/-- A word is found in the texts that hold it. -/
theorem hasTerm_iff (value : String) :
    s.hasTerm value = true ↔
      value ≠ "" ∧ ∃ text ∈ s.task.searchable, s.fold value.toList <:+: s.fold text := by
  simp only [hasTerm, Bool.and_eq_true, decide_eq_true_eq, List.any_eq_true, contains_iff_infix]

/-- The path is in the folder, or is what the value names, or passes through its folders. -/
theorem matchesPath_iff :
    s.matchesPath value exact = true ↔
      s.task.path ≠ "" ∧ s.fold (strip (· = '/') value) ≠ [] ∧
        (s.fold s.task.path.toList = s.fold (strip (· = '/') value) ∨
          s.fold (strip (· = '/') value) ++ ['/'] <+: s.fold s.task.path.toList ∨
            exact = false ∧ splitOn ['/'] (s.fold (strip (· = '/') value)) <:+:
              (splitOn ['/'] (s.fold s.task.path.toList)).dropLast) := by
  simp only [matchesPath]
  split
  · next h =>
    simp only [Bool.or_eq_true, decide_eq_true_eq] at h
    simp only [Bool.false_eq_true, false_iff]
    rintro ⟨hpath, hvalue, -⟩
    exact h.elim hpath hvalue
  · next h =>
    simp only [Bool.or_eq_true, decide_eq_true_eq, not_or] at h
    simp only [h, ne_eq, not_false_eq_true, true_and]
    split
    · next hfirst =>
      simp only [Bool.or_eq_true, decide_eq_true_eq, List.isPrefixOf_iff_prefix] at hfirst
      exact iff_of_true rfl (hfirst.imp_right .inl)
    · next hfirst =>
      simp only [Bool.or_eq_true, decide_eq_true_eq, List.isPrefixOf_iff_prefix, not_or] at hfirst
      simp [hfirst, contains_iff_infix]

/-- The name of the file, or its stem when exact, is the value, or holds it when not exact. -/
theorem matchesFile_iff :
    s.matchesFile value exact = true ↔
      s.task.fileName ≠ [] ∧
        if exact then s.fold value = s.fold s.task.fileName ∨
          s.fold value = stem (s.fold s.task.fileName)
        else s.fold value <:+: s.fold s.task.fileName := by
  simp only [matchesFile]
  cases exact <;> by_cases h : s.task.fileName = [] <;> simp [h, contains_iff_infix]

/-- A tag is found by its name or a part of it, with any number of hash signs in front. -/
theorem matchesTag_iff :
    s.matchesTag value exact = true ↔
      s.fold (value.dropWhile (· = '#')) ≠ [] ∧
        if exact then ∃ tag ∈ s.task.tags, s.fold tag = s.fold (value.dropWhile (· = '#'))
        else ∃ tag ∈ s.task.tags, s.fold (value.dropWhile (· = '#')) <:+: s.fold tag := by
  simp only [matchesTag]
  cases exact <;> by_cases h : s.fold (value.dropWhile (· = '#')) = [] <;>
    simp [h, contains_iff_infix]

/-- The text is found by what it holds, or by the whole of it. -/
theorem matchesContent_iff :
    s.matchesContent value exact = true ↔
      s.task.text ≠ "" ∧
        if exact then s.fold (trim s.task.text.toList) = s.fold value
        else s.fold value <:+: s.fold s.task.text.toList := by
  simp only [matchesContent]
  cases exact <;> by_cases h : s.task.text = "" <;> simp [h, contains_iff_infix]

/-- A state is found by itself, and by its group unless exact. -/
theorem matchesState_iff :
    s.matchesState value exact = true ↔
      s.fold s.task.state.toList = s.fold value ∨
        exact = false ∧ (KeywordGroup.ofName? (String.ofList (lower value))).any s.inGroup = true := by
  simp only [matchesState, Bool.or_eq_true, decide_eq_true_eq, Bool.and_eq_true, Bool.not_eq_true']

/-- A text is the value, or holds it when not exact. -/
theorem comparesText_iff (text : List Char) :
    s.comparesText value text exact = true ↔
      if exact then s.fold text = s.fold value else s.fold value <:+: s.fold text := by
  rw [comparesText]
  cases exact with
  | true => simp
  | false => simp [ contains_iff_infix]

end Scope

end TaskQuery
