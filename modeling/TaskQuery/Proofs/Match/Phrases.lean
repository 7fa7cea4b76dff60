import Mathlib.Data.List.Forall2
import TaskQuery.Match.Query

/-!
# Where a phrase stands

A phrase is looked for as a whole.  Some part of a text has to be the phrase, character by
character, and no word character may touch a word character at either end of it.

* `strip?_eq_some_iff`, `standsAtFront_iff`: what is found at the front of a text.
* `occurs_iff`: a phrase occurs in a text when it is whole at some place of it.
* `FreeText.IsWhole`, `Task.HasPlace`: the same said of the phrase and of the characters around it.
* `matchesLeaf_phrase_iff`: with regard to letter case a phrase matches a task when it is whole in
  one of its texts.  A phrase that ends in a word character and a line feed is the one kind that
  asks for more: behind its line feed no word may begin either.
-/

namespace TaskQuery

open Text

namespace FreeText

variable {same : Char → Char → Bool} {phrase s rest : List Char} {afterWord : Bool}

/-- A part of a text is the phrase, character by character. -/
def Spells (same : Char → Char → Bool) (phrase place : List Char) : Prop :=
  List.Forall₂ (fun p c => same p c = true) phrase place

/-- A place that spells the phrase is taken off. -/
theorem strip?_append {place : List Char} (h : Spells same phrase place) (rest : List Char) :
    strip? same phrase (place ++ rest) = some rest := by
  induction h with
  | nil => rfl
  | cons hsame _ ih => rw [List.cons_append, strip?, if_pos hsame, ih]

/-- What is taken off spells the phrase. -/
theorem exists_place_of_strip? (h : strip? same phrase s = some rest) :
    ∃ place, s = place ++ rest ∧ Spells same phrase place := by
  fun_induction strip? same phrase s with
  | case1 s =>
    obtain rfl := Option.some.inj h
    exact ⟨[], rfl, .nil⟩
  | case2 => cases h
  | case3 p phrase c s hsame ih =>
    obtain ⟨place, rfl, hplace⟩ := ih h
    exact ⟨c :: place, rfl, .cons hsame hplace⟩
  | case4 => cases h

/-- A phrase is taken off the front of a text exactly when it is what the text begins with. -/
theorem strip?_eq_some_iff :
    strip? same phrase s = some rest ↔ ∃ place, s = place ++ rest ∧ Spells same phrase place := by
  constructor
  · exact exists_place_of_strip?
  · rintro ⟨place, rfl, hplace⟩
    exact strip?_append hplace rest

/-- A phrase stands in front as a place that spells it, between the right surroundings. -/
theorem standsAtFront_iff :
    standsAtFront same phrase afterWord s = true ↔
      ∃ place after, s = place ++ after ∧ Spells same phrase place ∧
        (startsWithWord phrase = true → afterWord = false) ∧
          (endsWithWord phrase = true → startsWithWord after = false) := by
  simp only [standsAtFront, Bool.and_eq_true, Option.any_eq_true, strip?_eq_some_iff,
    Bool.not_eq_true', Bool.and_eq_false_imp]
  constructor
  · rintro ⟨hfront, after, ⟨place, hs, hplace⟩, hback⟩
    exact ⟨place, after, hs, hplace, hfront, hback⟩
  · rintro ⟨place, after, hs, hplace, hfront, hback⟩
    exact ⟨hfront, after, ⟨place, hs, hplace⟩, hback⟩

/-- Whether a text ends in a word character; `afterWord` says what stands before an empty one. -/
def endsInWord (afterWord : Bool) (before : List Char) : Bool :=
  (before.getLast?.map isWord).getD afterWord

/-- What stands before is read character by character. -/
theorem endsInWord_cons (afterWord : Bool) (c : Char) (before : List Char) :
    endsInWord afterWord (c :: before) = endsInWord (isWord c) before := by
  rw [endsInWord, endsInWord, List.getLast?_cons]
  cases before.getLast? <;> rfl

/-- From the start on, the last character decides. -/
theorem endsInWord_false (before : List Char) :
    endsInWord false before = before.getLast?.any isWord := by
  rw [endsInWord]
  cases before.getLast? <;> rfl

/-- A phrase occurs in a text when some part of the text is the phrase and no word runs on across
either of its ends. -/
theorem occurs_iff :
    occurs same phrase afterWord s = true ↔
      ∃ before place after, s = before ++ (place ++ after) ∧ Spells same phrase place ∧
        (startsWithWord phrase = true → endsInWord afterWord before = false) ∧
          (endsWithWord phrase = true → startsWithWord after = false) := by
  induction s generalizing afterWord with
  | nil =>
    rw [occurs, standsAtFront_iff]
    constructor
    · rintro ⟨place, after, hs, hrest⟩
      exact ⟨[], place, after, hs, hrest⟩
    · rintro ⟨before, place, after, hs, hrest⟩
      obtain rfl : before = [] := (List.append_eq_nil_iff.1 hs.symm).1
      exact ⟨place, after, hs, hrest⟩
  | cons c s ih =>
    rw [occurs, Bool.or_eq_true, standsAtFront_iff, ih]
    constructor
    · rintro (⟨place, after, hs, hrest⟩ | ⟨before, place, after, rfl, hplace, hfront, hback⟩)
      · exact ⟨[], place, after, hs, hrest⟩
      · refine ⟨c :: before, place, after, rfl, hplace, ?_, hback⟩
        rwa [endsInWord_cons]
    · rintro ⟨before, place, after, hs, hplace, hfront, hback⟩
      cases before with
      | nil => exact .inl ⟨place, after, hs, hplace, hfront, hback⟩
      | cons d before =>
        obtain ⟨rfl, rfl⟩ := List.cons.inj hs
        rw [endsInWord_cons] at hfront
        exact .inr ⟨before, place, after, rfl, hplace, hfront, hback⟩

/-! ## Whole phrases -/

/-- A phrase is whole between two texts: no word runs on across one of its ends. -/
structure IsWhole (phrase before after : List Char) : Prop where
  /-- A word character at the front of the phrase has no word character before it. -/
  front : phrase.head?.any isWord = true → before.getLast?.any isWord = false
  /-- A word character at the end of the phrase has no word character behind it. -/
  back : phrase.getLast?.any isWord = true → after.head?.any isWord = false

/-- A phrase ends in a word character and a line feed. -/
def EndsInWordLine (phrase : List Char) : Prop :=
  ∃ front c, phrase = front ++ [c, '\n'] ∧ isWord c = true

/-- A phrase ends in a word at its end or before a final line feed. -/
theorem endsWithWord_iff :
    endsWithWord phrase = true ↔
      phrase.getLast?.any isWord = true ∨ EndsInWordLine phrase := by
  rw [endsWithWord, Bool.or_eq_true, Bool.and_eq_true, decide_eq_true_eq]
  refine or_congr_right ⟨?_, ?_⟩
  · rintro ⟨hlast, hword⟩
    obtain ⟨line, rfl⟩ := List.getLast?_eq_some_iff.1 hlast
    rw [List.dropLast_concat, Option.any_eq_true] at hword
    obtain ⟨c, hc, hword⟩ := hword
    obtain ⟨front, rfl⟩ := List.getLast?_eq_some_iff.1 hc
    exact ⟨front, c, by simp, hword⟩
  · rintro ⟨front, c, rfl, hword⟩
    rw [← List.singleton_append (l := ['\n']), ← List.append_assoc]
    exact ⟨List.getLast?_concat, by simpa using hword⟩

/-- What `occurs` asks of the ends of a phrase: that it is whole, and more when it ends in a word
character and a line feed. -/
theorem isWhole_iff (before after : List Char) :
    (startsWithWord phrase = true → endsInWord false before = false) ∧
        (endsWithWord phrase = true → startsWithWord after = false) ↔
      IsWhole phrase before after ∧ (EndsInWordLine phrase → after.head?.any isWord = false) := by
  rw [endsWithWord_iff, endsInWord_false, or_imp, ← and_assoc]
  refine and_congr_left fun _ => ?_
  constructor
  · rintro ⟨hfront, hback⟩
    exact ⟨hfront, hback⟩
  · rintro ⟨hfront, hback⟩
    exact ⟨hfront, hback⟩

end FreeText

/-- One of the texts of a task that are not empty holds the phrase, and what stands before and
behind it there has the property. -/
def Task.HasPlace (t : Task) (phrase : List Char) (P : List Char → List Char → Prop) : Prop :=
  ∃ text ∈ [t.rawText.toList, t.text.toList, t.path.toList, t.fileName], text ≠ [] ∧
    ∃ before after, text = before ++ (phrase ++ after) ∧ P before after

/-- A phrase has a place in one of the texts of the task. -/
theorem Task.hasPlace_iff {t : Task} {phrase : List Char} {P : List Char → List Char → Prop} :
    t.HasPlace phrase P ↔
      ∃ text ∈ t.searchable, ∃ before after, text = before ++ (phrase ++ after) ∧ P before after := by
  simp only [HasPlace, searchable, List.mem_filter, decide_eq_true_eq, and_assoc]

namespace Scope

open FreeText

variable {s : Scope} {value : String}

/-- A phrase is found where it occurs in one of the texts. -/
theorem hasPhrase_iff :
    s.hasPhrase value = true ↔
      value ≠ "" ∧ ∃ text ∈ s.task.searchable,
        FreeText.occurs s.sameChar value.toList false text = true := by
  simp only [hasPhrase, Bool.and_eq_true, decide_eq_true_eq, List.any_eq_true]

/-- A phrase always has an answer. -/
theorem matchesLeaf_phrase_eq (s : Scope) (value : String) :
    s.matchesLeaf (.phrase value) = .ok (s.hasPhrase value) := rfl

/-- Where letter case counts, only the phrase spells itself. -/
theorem spells_sameChar_iff (hcase : s.caseSensitive = true) {phrase place : List Char} :
    Spells s.sameChar phrase place ↔ phrase = place := by
  have hsame : (fun p c => s.sameChar p c = true) = Eq := by
    funext p c
    simp [sameChar, hcase]
  rw [Spells, hsame, List.forall₂_eq_eq_eq]

/-- A phrase is found at whole places, with one more condition if it ends in the line of a word. -/
theorem matchesLeaf_phrase_iff_hasPlace (hcase : s.caseSensitive = true) (hvalue : value ≠ "") :
    s.matchesLeaf (.phrase value) = .ok true ↔
      s.task.HasPlace value.toList fun before after => IsWhole value.toList before after ∧
        (EndsInWordLine value.toList → after.head?.any isWord = false) := by
  rw [matchesLeaf_phrase_eq, Except.ok.injEq, hasPhrase_iff, Task.hasPlace_iff,
    and_iff_right hvalue]
  refine exists_congr fun text => and_congr_right fun _ => ?_
  rw [occurs_iff]
  constructor
  · rintro ⟨before, place, after, htext, hplace, hends⟩
    obtain rfl := (spells_sameChar_iff hcase).1 hplace
    exact ⟨before, after, htext, (isWhole_iff before after).1 hends⟩
  · rintro ⟨before, after, htext, hends⟩
    exact ⟨before, value.toList, after, htext, (spells_sameChar_iff hcase).2 rfl,
      (isWhole_iff before after).2 hends⟩

/-! ## Tasks of one line -/

/-- A task whose only text is the given line. -/
def ofLine (caseSensitive : Bool) (line : List Char) : Scope where
  task := { path := "", rawText := String.ofList line }
  caseSensitive
  settings := {}
  properties := []
  clock := ⟨2024, 1, 10, by decide⟩

/-- The only text of a task that is one line is that line. -/
theorem mem_searchable_ofLine {caseSensitive : Bool} {line text : List Char} :
    text ∈ (ofLine caseSensitive line).task.searchable ↔ text = line ∧ text ≠ [] := by
  have hname : (ofLine caseSensitive line).task.fileName = [] :=
    (by decide +kernel : Task.fileName { path := "" } = [])
  have htexts : (ofLine caseSensitive line).task.searchable =
      [line, [], [], []].filter (· ≠ []) := by
    rw [Task.searchable, hname]
    simp only [ofLine, String.toList_ofList, String.toList_empty]
  simp only [htexts, List.mem_filter, decide_eq_true_eq, List.mem_cons, List.not_mem_nil, or_false]
  refine and_congr_left fun hne => ?_
  simp only [hne, or_false]

/-- A phrase that ends in a word character and a line feed is whole in front of a letter on the
next line, but does not match there. -/
theorem exists_hasPlace_of_endsInWordLine (hends : EndsInWordLine value.toList) :
    ∃ s : Scope, s.caseSensitive = true ∧ s.task.HasPlace value.toList (IsWhole value.toList) ∧
      s.matchesLeaf (.phrase value) ≠ .ok true := by
  obtain ⟨front, c, hphrase, hword⟩ := id hends
  have hlast : value.toList.getLast? = some '\n' := by simp [hphrase]
  have hne : value ≠ "" := by
    rintro rfl
    simp at hlast
  refine ⟨ofLine true (value.toList ++ ['a']), rfl, ?_, ?_⟩
  · rw [Task.hasPlace_iff]
    refine ⟨_, mem_searchable_ofLine.2 ⟨rfl, by simp⟩, [], ['a'], rfl, ⟨fun _ => rfl, ?_⟩⟩
    intro h
    rw [hlast] at h
    exact absurd h (by decide)
  · rw [ne_eq, matchesLeaf_phrase_iff_hasPlace rfl hne, Task.hasPlace_iff]
    rintro ⟨text, htext, before, after, hplace, -, hback⟩
    obtain ⟨rfl, -⟩ := mem_searchable_ofLine.1 htext
    have hafter := hback hends
    cases after with
    | nil =>
      -- the line ends in the letter, the phrase does not
      have h := congrArg List.getLast? hplace
      simp [hlast] at h
    | cons d rest =>
      -- the phrase can only stand in front, before the letter
      have hlength := congrArg List.length hplace
      simp only [List.length_append, List.length_cons, List.length_nil] at hlength
      obtain rfl : before = [] := List.length_eq_zero_iff.1 (by omega)
      obtain ⟨rfl, -⟩ := List.cons.inj (List.append_cancel_left hplace)
      simp [show isWord 'a' = true by decide] at hafter

/-- **A phrase matches where it is whole.**  With regard to letter case a phrase matches a task when
it is whole at some place of one of its texts, and, if it ends in a word character and a line feed,
no word begins behind it.  So being whole is all that is asked of the phrases that do not end so,
and of no other ones. -/
theorem matchesLeaf_phrase_iff (hvalue : value ≠ "") :
    (∀ s : Scope, s.caseSensitive = true → (s.matchesLeaf (.phrase value) = .ok true ↔
      s.task.HasPlace value.toList fun before after => IsWhole value.toList before after ∧
        (EndsInWordLine value.toList → after.head?.any isWord = false))) ∧
    ((∀ s : Scope, s.caseSensitive = true → (s.matchesLeaf (.phrase value) = .ok true ↔
      s.task.HasPlace value.toList (IsWhole value.toList))) ↔ ¬EndsInWordLine value.toList) := by
  refine ⟨fun s hcase => matchesLeaf_phrase_iff_hasPlace hcase hvalue, ?_, ?_⟩
  · intro h hends
    obtain ⟨s, hcase, hplace, hmatch⟩ := exists_hasPlace_of_endsInWordLine hends
    exact hmatch ((h s hcase).2 hplace)
  · intro hends s hcase
    rw [matchesLeaf_phrase_iff_hasPlace hcase hvalue]
    simp only [hends, false_imp_iff, and_true]

/-- `login bug` matches where a hyphen follows it.  `bug` with a line feed behind it is a phrase for
which being whole is not enough. -/
theorem matchesLeaf_phrase_iff_login :
    let s := ofLine true "Fix login bug-report".toList
    "login bug" ≠ "" ∧ "bug\n" ≠ "" ∧ s.caseSensitive = true ∧
      s.matchesLeaf (.phrase "login bug") = .ok true ∧
        ¬∀ s : Scope, s.caseSensitive = true → (s.matchesLeaf (.phrase "bug\n") = .ok true ↔
          s.task.HasPlace "bug\n".toList (IsWhole "bug\n".toList)) := by
  intro s
  have hlogin : "login bug" ≠ "" := by decide
  have hbug : "bug\n" ≠ "" := by decide
  obtain ⟨hmatch, -⟩ := matchesLeaf_phrase_iff hlogin
  obtain ⟨-, hwhole⟩ := matchesLeaf_phrase_iff hbug
  refine ⟨hlogin, hbug, rfl, (hmatch s rfl).2 ?_, ?_⟩
  · refine ⟨"Fix login bug-report".toList, by simp [s, ofLine], by simp, "Fix ".toList,
      "-report".toList, by simp, ⟨fun _ => by decide, fun _ => by decide⟩, fun _ => by decide⟩
  · rw [hwhole, not_not]
    exact ⟨"bu".toList, 'g', by simp, by decide⟩

end Scope

end TaskQuery
