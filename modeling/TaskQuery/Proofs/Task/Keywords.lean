import TaskQuery.Proofs.Text.UpperCase
import TaskQuery.Task.Keyword

/-!
# The keywords of each group

A group has its builtin keywords and behind them those that a configuration adds to it.

* `listsOnce_firstOccurrences`: a list without later repetitions has everything once, in the order
  of its first appearance.
* `keywordForm_keywordForm`: a keyword as it is compared is compared as it is.
* `Keywords.wordsOf_ofAdditional`: the added keywords stand behind the builtin ones.
* `Keywords.all_ofAdditional`: the keywords of all groups are those of one group after the other.
* `Keywords.groupOf?_builtin_eq_some_iff`: whose builtin keyword a word is.  Such a word has no
  blanks, also not at its ends.
-/

namespace TaskQuery

open Text

/-! ## First occurrences -/

/-- The second list has the elements of the first one, each once, in the order in which they first
appear there. -/
structure ListsOnce {α : Type} [DecidableEq α] (source list : List α) : Prop where
  mem_iff : ∀ a, a ∈ list ↔ a ∈ source
  ordered : list.Pairwise fun a b => source.idxOf a < source.idxOf b

section FirstOccurrences

variable {α : Type} [DecidableEq α] {as bs : List α}

/-- First occurrences are of the same elements. -/
theorem mem_firstOccurrences (a : α) : a ∈ firstOccurrences as ↔ a ∈ as := by
  induction as with
  | nil => rfl
  | cons b as ih =>
    rw [firstOccurrences, List.mem_cons, List.mem_filter, ih, List.mem_cons]
    by_cases hab : a = b
    · simp [hab]
    · simp [hab]

/-- What is left when the later repetitions are dropped lists everything once. -/
theorem listsOnce_firstOccurrences (as : List α) : ListsOnce as (firstOccurrences as) := by
  refine ⟨mem_firstOccurrences, ?_⟩
  induction as with
  | nil => exact List.Pairwise.nil
  | cons a as ih =>
    rw [firstOccurrences, List.pairwise_cons]
    have hlater : ∀ b, b ∈ (firstOccurrences as).filter (! · == a) →
        (a :: as).idxOf b = as.idxOf b + 1 := by
      intro b hb
      have hne : a ≠ b := by
        rintro rfl
        simp at hb
      exact List.idxOf_cons_ne as hne
    refine ⟨fun b hb => ?_, ?_⟩
    · rw [hlater b hb, List.idxOf_cons_self]
      exact Nat.succ_pos _
    · refine (ih.filter _).imp_of_mem ?_
      intro b c hb hc hlt
      rw [hlater b hb, hlater c hc]
      exact Nat.succ_lt_succ hlt

/-- Elements may be picked before or after repetitions are dropped. -/
theorem firstOccurrences_filter (p : α → Bool) (as : List α) :
    firstOccurrences (as.filter p) = (firstOccurrences as).filter p := by
  induction as with
  | nil => rfl
  | cons a as ih =>
    cases hp : p a with
    | true =>
      rw [List.filter_cons_of_pos hp, firstOccurrences, firstOccurrences,
        List.filter_cons_of_pos hp, ih, List.filter_comm]
    | false =>
      rw [List.filter_cons_of_neg (by simp [hp]), firstOccurrences,
        List.filter_cons_of_neg (by simp [hp]), List.filter_comm, ih]
      refine (List.filter_eq_self.2 ?_).symm
      intro b hb
      have hpb := (List.mem_filter.1 hb).2
      have hne : b ≠ a := by
        rintro rfl
        simp [hp] at hpb
      simpa using hne

/-- Behind a list only what is not in it appears for the first time. -/
theorem firstOccurrences_append (as bs : List α) :
    firstOccurrences (as ++ bs) =
      firstOccurrences as ++ firstOccurrences (bs.filter (· ∉ as)) := by
  induction as with
  | nil => simp [firstOccurrences]
  | cons a as ih =>
    have hbehind : (bs.filter (· ∉ as)).filter (! · == a) = bs.filter (· ∉ a :: as) := by
      rw [List.filter_filter]
      refine List.filter_congr fun b _ => ?_
      by_cases hb : b = a
      · simp [hb]
      · simp [hb]
    rw [List.cons_append, firstOccurrences, ih, List.filter_append,
      ← firstOccurrences_filter (! · == a) (bs.filter _), hbehind]
    rfl

end FirstOccurrences

/-! ## The form of a keyword -/

/-- The form of a keyword is in capitals and trimmed. -/
theorem toList_keywordForm (word : String) :
    (keywordForm word).toList = upper (trim word.toList) := String.toList_ofList

/-- A keyword as it is compared is compared as it is. -/
theorem keywordForm_keywordForm (word : String) : keywordForm (keywordForm word) = keywordForm word := by
  conv_lhs => rw [keywordForm, toList_keywordForm]
  rw [upper_trim, upper_upper, ← upper_trim, trim_trim, keywordForm]

/-- Every group is in the list of groups. -/
theorem KeywordGroup.mem_all (g : KeywordGroup) : g ∈ KeywordGroup.all := by
  cases g <;> decide

/-- The builtin keywords are compared as they are. -/
theorem keywordForm_builtin (g : KeywordGroup) : ∀ w ∈ g.builtin, keywordForm w = w := by
  have hforms : ∀ g ∈ KeywordGroup.all, ∀ w ∈ g.builtin, keywordForm w = w := by decide
  exact hforms g g.mem_all

/-- No builtin keyword is empty. -/
theorem empty_not_mem_builtin (g : KeywordGroup) : "" ∉ g.builtin := by
  cases g <;> decide

/-- Groups with one name are the same. -/
theorem KeywordGroup.eq_of_name_eq {g h : KeywordGroup} (hname : g.name = h.name) : g = h := by
  revert hname
  cases g <;> cases h <;> decide

/-! ## The keywords of a group -/

namespace Keywords

variable (extra : KeywordGroup → List String)

/-- The keywords that words stand for, without blank ones. -/
def formsOf (words : List String) : List String := (words.map keywordForm).filter (· ≠ "")

/-- The keywords under the name of a group are its words. -/
theorem keywordsIn_name (k : Keywords) (g : KeywordGroup) : k.keywordsIn g.name = k.wordsOf g := by
  have hname : KeywordGroup.ofName? (lowerString g.name) = some g := by cases g <;> decide
  rw [keywordsIn, hname]

/-- Builtin keywords are in their form already. -/
theorem formsOf_builtin (g : KeywordGroup) : formsOf g.builtin = g.builtin := by
  rw [formsOf, List.map_congr_left (keywordForm_builtin g), List.map_id', List.filter_eq_self]
  intro w hw
  exact decide_eq_true (ne_of_mem_of_not_mem hw (empty_not_mem_builtin g))

/-- The words of a group are the builtin and the additional ones, without repetitions. -/
theorem wordsOf_ofAdditional_eq_firstOccurrences (g : KeywordGroup) :
    (ofAdditional extra).wordsOf g = firstOccurrences (g.builtin ++ formsOf (extra g)) := by
  have happend : formsOf (g.builtin ++ extra g) = g.builtin ++ formsOf (extra g) := by
    rw [formsOf, List.map_append, List.filter_append]
    exact congrArg (· ++ _) (formsOf_builtin g)
  exact congrArg firstOccurrences happend

/-- The added keywords of a group stand behind its builtin ones, those that are builtin ones
themselves left out. -/
theorem wordsOf_ofAdditional (g : KeywordGroup) :
    (ofAdditional extra).wordsOf g =
      g.builtin ++ firstOccurrences ((formsOf (extra g)).filter (· ∉ g.builtin)) := by
  have hbuiltin : firstOccurrences g.builtin = g.builtin := by cases g <;> decide
  rw [wordsOf_ofAdditional_eq_firstOccurrences, firstOccurrences_append, hbuiltin]

/-- A word of a group is builtin or additional. -/
theorem mem_wordsOf_ofAdditional {g : KeywordGroup} {w : String} :
    w ∈ (ofAdditional extra).wordsOf g ↔ w ∈ g.builtin ∨ w ∈ formsOf (extra g) := by
  rw [wordsOf_ofAdditional_eq_firstOccurrences, mem_firstOccurrences, List.mem_append]

/-- The keywords of all groups are those of one group after the other, each once. -/
theorem all_ofAdditional :
    (ofAdditional extra).all =
      firstOccurrences (KeywordGroup.all.flatMap (ofAdditional extra).wordsOf) := by
  have hform : ∀ w ∈ KeywordGroup.all.flatMap (ofAdditional extra).wordsOf,
      keywordForm w = w ∧ w ≠ "" := by
    intro w hw
    obtain ⟨g, -, hw⟩ := List.mem_flatMap.1 hw
    rcases (mem_wordsOf_ofAdditional extra).1 hw with hbuiltin | hadded
    · exact ⟨keywordForm_builtin g w hbuiltin,
        ne_of_mem_of_not_mem hbuiltin (empty_not_mem_builtin g)⟩
    · obtain ⟨hword, hne⟩ := List.mem_filter.1 hadded
      obtain ⟨word, -, rfl⟩ := List.mem_map.1 hword
      exact ⟨keywordForm_keywordForm word, of_decide_eq_true hne⟩
  rw [all, keywordForms, List.map_congr_left fun w hw => (hform w hw).1, List.map_id',
    List.filter_eq_self.2 fun w hw => decide_eq_true (hform w hw).2]

/-! ## Whose builtin keyword a word is -/

/-- Builtin keywords have no blanks. -/
theorem noBlank_of_mem_builtin (g : KeywordGroup) : ∀ w ∈ g.builtin, NoBlank w.toList := by
  have hwords : ∀ g ∈ KeywordGroup.all, ∀ w ∈ g.builtin, NoBlank w.toList := by decide
  exact hwords g g.mem_all

/-- A builtin keyword belongs to one group. -/
theorem eq_of_mem_builtin {g h : KeywordGroup} {w : String} (hg : w ∈ g.builtin)
    (hh : w ∈ h.builtin) : g = h := by
  have hdisjoint : ∀ g ∈ KeywordGroup.all, ∀ h ∈ KeywordGroup.all, ∀ w ∈ g.builtin,
      w ∈ h.builtin → g = h := by
    decide
  exact hdisjoint g g.mem_all h h.mem_all w hg hh

/-- A word in any letter case is a builtin keyword when it is one as it is compared and has no blanks
at its ends. -/
theorem upperString_mem_builtin_iff {g : KeywordGroup} {word : String} :
    upperString word ∈ g.builtin ↔
      trim word.toList = word.toList ∧ keywordForm word ∈ g.builtin := by
  constructor
  · intro h
    have hupper := noBlank_of_mem_builtin g _ h
    rw [upperString, String.toList_ofList] at hupper
    have hword : NoBlank word.toList := by
      intro c hc
      rw [← Bool.not_eq_true]
      intro hblank
      have hmem : c ∈ upper word.toList :=
        List.mem_flatMap.2 ⟨c, hc, by simp [upperChar_of_isBlank hblank]⟩
      exact absurd hblank (by simp [hupper c hmem])
    have htrim := trim_of_noBlank hword
    refine ⟨htrim, ?_⟩
    rwa [keywordForm, htrim]
  · rintro ⟨htrim, h⟩
    rwa [keywordForm, htrim] at h

/-- A word belongs to the group that has its form, if nothing has to be trimmed. -/
theorem groupOf?_builtin_eq_some_iff {word : String} {g : KeywordGroup} :
    builtin.groupOf? word = some g ↔
      trim word.toList = word.toList ∧ keywordForm word ∈ g.builtin := by
  rw [← upperString_mem_builtin_iff]
  have hfound : ∀ g, builtin.groupOf? word = some g → upperString word ∈ g.builtin := by
    intro g h
    have hcontains := List.find?_some h
    exact List.contains_iff_mem.1 hcontains
  refine ⟨hfound g, fun h => ?_⟩
  cases hfind : builtin.groupOf? word with
  | none =>
    exact absurd (List.contains_iff_mem.2 h) (List.find?_eq_none.1 hfind g g.mem_all)
  | some owner => rw [eq_of_mem_builtin (hfound owner hfind) h]

end Keywords

end TaskQuery
