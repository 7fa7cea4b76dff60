import Mathlib
import TaskQuery.Proofs.Match.Fields

/-!
# The tags of a line

A tag stands behind a sign that opens it, and goes on as far as it can.  The tags of a line are those
of all its signs that open one, in their order.

* `IsTagAt`: a tag and the place of its sign in a text, whatever else is in the text.
* `exists_positions_tagsFrom`: the tags of a text stand at increasing positions, and there is a tag at
  no other position.
* `scanTags`: the tags that a search from left to right finds when it goes on behind each tag.  It
  skips no sign that opens one, since there is no sign inside a tag (`tagsFrom_eq_scanTags`).
* `tags_found`: the tags of a task, and what an exact filter on them finds.
-/

namespace TaskQuery

open Text

namespace Task

/-- A sign behind this character does not open a tag. -/
def blocks (c : Char) : Bool := isWord c || c = '#'

/-- The tag stands in the text behind the sign at the position: the sign is the first character or
stands behind one that is neither a word character nor another sign, and the tag is a run of word
characters, slashes and dashes that is not empty and goes no further. -/
def IsTagAt (text : List Char) (position : Nat) (tag : List Char) : Prop :=
  ∃ front rest, text = front ++ '#' :: (tag ++ rest) ∧ front.length = position ∧
    (∀ c ∈ front.getLast?, ¬(isWord c = true ∨ c = '#')) ∧
    tag ≠ [] ∧ (∀ c ∈ tag, isWord c = true ∨ c = '/' ∨ c = '-') ∧
    ∀ c ∈ rest.head?, ¬(isWord c = true ∨ c = '/' ∨ c = '-')

variable {text front s : List Char} {tag : List Char} {c : Char} {position : Nat}

/-- The characters of tags are those of words, slashes and dashes. -/
theorem isTagChar_iff : isTagChar c = true ↔ isWord c = true ∨ c = '/' ∨ c = '-' := by
  simp [isTagChar, or_assoc]

/-- A tag does not begin behind a character of a word or a hash sign. -/
theorem blocks_iff : blocks c = true ↔ isWord c = true ∨ c = '#' := by
  simp [blocks]

/-! ## One position -/

/-- A run of tag characters that goes no further is the one at the front. -/
theorem takeWhile_run {rest : List Char} (htag : ∀ d ∈ tag, isTagChar d = true)
    (hrest : ∀ d ∈ rest.head?, ¬isTagChar d = true) : (tag ++ rest).takeWhile isTagChar = tag := by
  rw [List.takeWhile_append_of_pos htag]
  cases rest with
  | nil => simp
  | cons d rest => rw [List.takeWhile_cons_of_neg (hrest d rfl), List.append_nil]

/-- A sign behind `front` opens a tag when nothing blocks it and a run follows. -/
theorem isTagAt_length_iff : IsTagAt (front ++ c :: s) front.length tag ↔
    c = '#' ∧ front.getLast?.any blocks = false ∧ tag ≠ [] ∧ s.takeWhile isTagChar = tag := by
  have hopen : (∀ d ∈ front.getLast?, ¬(isWord d = true ∨ d = '#')) ↔
      front.getLast?.any blocks = false := by
    simp only [← blocks_iff]
    cases front.getLast? <;> simp
  unfold IsTagAt
  simp only [← isTagChar_iff]
  constructor
  · rintro ⟨before, rest, htext, hlength, hbefore, hne, htag, hrest⟩
    obtain ⟨rfl, hs⟩ := List.append_inj htext hlength.symm
    obtain ⟨rfl, rfl⟩ := List.cons.inj hs
    exact ⟨rfl, hopen.1 hbefore, hne, takeWhile_run htag hrest⟩
  · rintro ⟨rfl, hbefore, hne, rfl⟩
    refine ⟨front, s.dropWhile isTagChar, ?_, rfl, hopen.2 hbefore, hne, ?_, ?_⟩
    · rw [List.takeWhile_append_dropWhile]
    · exact fun d hd => List.mem_takeWhile_imp hd
    · intro d hd
      have := List.head?_dropWhile_not isTagChar s
      rw [Option.mem_def.1 hd] at this
      simpa using this

/-- A tag stands inside the text. -/
theorem IsTagAt.lt_length (h : IsTagAt text position tag) : position < text.length := by
  obtain ⟨front, rest, rfl, rfl, -⟩ := h
  simp

/-- There is one tag behind a sign. -/
theorem IsTagAt.unique {tag' : List Char} (h : IsTagAt text position tag)
    (h' : IsTagAt text position tag') : tag = tag' := by
  obtain ⟨front, rest, rfl, rfl, -⟩ := id h
  obtain ⟨-, -, -, hrun⟩ := isTagAt_length_iff.1 h
  obtain ⟨-, -, -, hrun'⟩ := isTagAt_length_iff.1 h'
  rw [← hrun, hrun']

/-! ## All positions -/

/-- A tag begins at a hash sign that nothing blocks and that has a name behind it. -/
theorem tagsFrom_cons (blocked : Bool) (c : Char) (s : List Char) : tagsFrom blocked (c :: s) =
    if c = '#' ∧ blocked = false ∧ s.takeWhile isTagChar ≠ [] then
      s.takeWhile isTagChar :: tagsFrom (blocks c) s
    else tagsFrom (blocks c) s := by
  simp [tagsFrom, blocks, and_assoc]

/-- The tags of a text behind `front` stand at increasing positions, and there is none at any other.
The induction moves one character at a time from the text to the front. -/
theorem exists_positions_tagsFrom (front s : List Char) : ∃ positions : List Nat,
    positions.Pairwise (· < ·) ∧
      (∀ i, i ∈ positions ↔ front.length ≤ i ∧ ∃ tag, IsTagAt (front ++ s) i tag) ∧
      List.Forall₂ (IsTagAt (front ++ s)) positions
        (tagsFrom (front.getLast?.any blocks) s) := by
  induction s generalizing front with
  | nil =>
    refine ⟨[], .nil, fun i => ?_, .nil⟩
    rw [List.append_nil, iff_false_left List.not_mem_nil]
    rintro ⟨hle, tag, htag⟩
    exact absurd htag.lt_length (Nat.not_lt.2 hle)
  | cons c s ih =>
    obtain ⟨positions, hpairwise, hmem, hall⟩ := ih (front ++ [c])
    rw [List.getLast?_concat, Option.any_some] at hall
    simp only [List.append_assoc, List.singleton_append, List.length_append, List.length_singleton]
      at hmem hall
    have hfront : (∃ tag, IsTagAt (front ++ c :: s) front.length tag) ↔
        c = '#' ∧ front.getLast?.any blocks = false ∧ s.takeWhile isTagChar ≠ [] := by
      simp only [isTagAt_length_iff]
      grind
    have hsplit : ∀ i, (front.length ≤ i ∧ ∃ tag, IsTagAt (front ++ c :: s) i tag) ↔
        (i = front.length ∧ ∃ tag, IsTagAt (front ++ c :: s) front.length tag) ∨ i ∈ positions := by
      intro i
      rw [hmem]
      constructor
      · rintro ⟨hle, h⟩
        obtain rfl | hlt := Nat.eq_or_lt_of_le hle
        · exact .inl ⟨rfl, h⟩
        · exact .inr ⟨hlt, h⟩
      · rintro (⟨rfl, h⟩ | ⟨hle, h⟩)
        · exact ⟨Nat.le_refl _, h⟩
        · exact ⟨Nat.le_of_succ_le hle, h⟩
    rw [tagsFrom_cons]
    by_cases hopen : c = '#' ∧ front.getLast?.any blocks = false ∧ s.takeWhile isTagChar ≠ []
    · rw [if_pos hopen]
      refine ⟨front.length :: positions, ?_, fun i => ?_, .cons ?_ hall⟩
      · exact List.pairwise_cons.2 ⟨fun i hi => ((hmem i).1 hi).1, hpairwise⟩
      · rw [hsplit, List.mem_cons, and_iff_left (hfront.2 hopen)]
      · exact isTagAt_length_iff.2 ⟨hopen.1, hopen.2.1, hopen.2.2, rfl⟩
    · rw [if_neg hopen]
      refine ⟨positions, hpairwise, fun i => ?_, hall⟩
      rw [hsplit, or_iff_right fun h => hopen (hfront.1 h.2)]

/-! ## From left to right -/

/-- The tags that a search finds behind the character `before`.  It goes on behind each tag. -/
def scanTags (before : Option Char) : List Char → List (List Char)
  | [] => []
  | c :: cs =>
    if c = '#' ∧ before.any blocks = false ∧ cs.takeWhile isTagChar ≠ [] then
      cs.takeWhile isTagChar ::
        scanTags (cs.takeWhile isTagChar).getLast? (cs.dropWhile isTagChar)
    else scanTags (some c) cs
termination_by s => s.length
decreasing_by
  · exact Nat.lt_succ_of_le (List.dropWhile_suffix _).length_le
  · exact Nat.lt_succ_self _

/-- There is no sign inside a run. -/
theorem tagsFrom_run_append {run : List Char} (hne : run ≠ [])
    (hrun : ∀ d ∈ run, isTagChar d = true) (rest : List Char) (blocked : Bool) :
    tagsFrom blocked (run ++ rest) = tagsFrom (run.getLast?.any blocks) rest := by
  induction run generalizing blocked with
  | nil => exact absurd rfl hne
  | cons d run ih =>
    obtain ⟨hd, hrun⟩ := List.forall_mem_cons.1 hrun
    have hsign : d ≠ '#' := by
      rintro rfl
      exact absurd hd (by decide)
    rw [List.cons_append, tagsFrom_cons, if_neg fun h => hsign h.1]
    cases run with
    | nil => rfl
    | cons e run => rw [ih (List.cons_ne_nil e run) hrun, List.getLast?_cons_cons]

/-- A search that goes on behind each tag skips no sign that opens one. -/
theorem tagsFrom_eq_scanTags (before : Option Char) (s : List Char) :
    tagsFrom (before.any blocks) s = scanTags before s := by
  fun_induction scanTags before s with
  | case1 => rfl
  | case2 before c cs hopen ih =>
    have hrun := tagsFrom_run_append hopen.2.2 (fun d hd => List.mem_takeWhile_imp hd)
      (cs.dropWhile isTagChar) (blocks c)
    rw [List.takeWhile_append_dropWhile, ih] at hrun
    rw [tagsFrom_cons, if_pos hopen, hrun]
  | case3 before c cs hopen ih =>
    rw [tagsFrom_cons, if_neg hopen, ← ih, Option.any_some]

/-! ## Tasks -/

/-- An element of the second of two paired lists has a partner in the first one. -/
theorem exists_mem_of_forall₂ {α β : Type} {R : α → β → Prop} {as : List α} {bs : List β} {b : β}
    (h : List.Forall₂ R as bs) (hb : b ∈ bs) : ∃ a ∈ as, R a b := by
  induction h with
  | nil => cases hb
  | @cons a b' as bs hab _ ih =>
    obtain rfl | hb := List.mem_cons.1 hb
    · exact ⟨a, List.mem_cons_self, hab⟩
    · obtain ⟨a', ha', hab'⟩ := ih hb
      exact ⟨a', List.mem_cons_of_mem a ha', hab'⟩

/-- The tags of a task are those that stand somewhere on its line. -/
theorem mem_tags_iff {t : Task} : tag ∈ t.tags ↔ ∃ i, IsTagAt t.rawText.toList i tag := by
  obtain ⟨positions, -, hmem, hall⟩ := exists_positions_tagsFrom [] t.rawText.toList
  constructor
  · intro h
    obtain ⟨i, -, hi⟩ := exists_mem_of_forall₂ hall h
    exact ⟨i, hi⟩
  · rintro ⟨i, hi⟩
    have hposition : i ∈ positions := (hmem i).2 ⟨Nat.zero_le i, tag, hi⟩
    obtain ⟨tag', htag', hi'⟩ := exists_mem_of_forall₂ hall.flip hposition
    rwa [hi.unique hi']

/-- **The tags of a task are found where they stand.**  The positions of the signs that open a tag go
up, and the tags are those behind them, in this order and with repetitions; a search from left to right
that goes on behind each tag finds the same.  With regard to letter case, an exact filter on the tags
finds what stands behind the signs at its front when that is one of these tags. -/
theorem tags_found (t : Task) :
    (∃ positions : List Nat, positions.Pairwise (· < ·) ∧
      (∀ i, i ∈ positions ↔ ∃ tag, IsTagAt t.rawText.toList i tag) ∧
      List.Forall₂ (IsTagAt t.rawText.toList) positions t.tags) ∧
    t.tags = scanTags none t.rawText.toList ∧
    ∀ settings properties clock value,
      ∃ b, Scope.matchesLeaf ⟨t, true, settings, properties, clock⟩ (.field "tag" value true) = .ok b ∧
        (b = true ↔ ∃ i, IsTagAt t.rawText.toList i (value.toList.dropWhile (· = '#'))) := by
  refine ⟨?_, tagsFrom_eq_scanTags none t.rawText.toList, ?_⟩
  · obtain ⟨positions, hpairwise, hmem, hall⟩ := exists_positions_tagsFrom [] t.rawText.toList
    refine ⟨positions, hpairwise, fun i => ?_, hall⟩
    rw [hmem]
    exact and_iff_right (Nat.zero_le i)
  · intro settings properties clock value
    let s : Scope := ⟨t, true, settings, properties, clock⟩
    have hleaf : s.matchesLeaf (.field "tag" value true) =
        .ok (if value = "" then false else s.matchesTag value.toList true) := by
      simp only [Scope.matchesLeaf, Scope.test, Scope.matchesField, Field.ofName?]
      split <;> rfl
    have hne : (∃ i, IsTagAt t.rawText.toList i (value.toList.dropWhile (· = '#'))) →
        value.toList.dropWhile (· = '#') ≠ [] := by
      rintro ⟨i, -, -, -, -, -, hne, -⟩
      exact hne
    refine ⟨_, hleaf, ?_⟩
    rw [← mem_tags_iff] at hne ⊢
    split
    · next hvalue =>
      subst hvalue
      exact iff_of_false Bool.false_ne_true fun h => hne h rfl
    · rw [Scope.matchesTag_iff, if_pos rfl]
      constructor
      · rintro ⟨-, tag, htag, rfl⟩
        exact htag
      · intro h
        exact ⟨hne h, _, h, rfl⟩

/-- A sign behind a dash opens a tag; one behind a letter or another sign does not. -/
example : tags { path := "", rawText := "#a#b (#c/d-#e ##f x#g #" } =
    ["a".toList, "c/d-".toList, "e".toList] := by decide

end Task

end TaskQuery
