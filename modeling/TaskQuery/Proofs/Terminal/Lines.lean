import Mathlib.Data.List.DropRight
import TaskQuery.Proofs.Files.PathName
import TaskQuery.Proofs.Text.Cells
import TaskQuery.Terminal.Lines

/-!
# Lines that fit

A text that is broken into lines loses nothing but blanks, and no line is wider than the terminal.
A line that starts with a joiner is the one exception: the character after the joiner is taken for a
part of the one before it, and there is none.
-/

namespace TaskQuery.Terminal

open Text

/-! ## What is not blank -/

/-- The characters of a text that are not blank. -/
def inked (s : List Char) : List Char := s.filter fun c => !isBlank c

/-- What is not blank in two texts, one after the other. -/
@[simp] theorem inked_append (s t : List Char) : inked (s ++ t) = inked s ++ inked t :=
  List.filter_append s t

/-- Blanks are left out. -/
theorem inked_of_blank {s : List Char} (h : ∀ c ∈ s, isBlank c = true) : inked s = [] := by
  refine List.filter_eq_nil_iff.2 fun c hc => ?_
  simp [h c hc]

/-- Spaces are left out. -/
@[simp] theorem inked_replicate_space (n : Nat) : inked (List.replicate n ' ') = [] := by
  refine inked_of_blank fun c hc => ?_
  rw [List.eq_of_mem_replicate hc]
  rfl

/-- What is not blank in several texts, one after the other. -/
theorem inked_flatten (ls : List (List Char)) : inked ls.flatten = ls.flatMap inked := by
  rw [inked, List.filter_flatten, List.flatMap_def]
  rfl

/-- A text is what is left without the blanks at its end, and those blanks. -/
theorem trimEnd_append (s : List Char) :
    ∃ blanks, trimEnd s ++ blanks = s ∧ ∀ c ∈ blanks, isBlank c = true := by
  refine ⟨(s.reverse.takeWhile isBlank).reverse, ?_, fun c hc => ?_⟩
  · rw [trimEnd, ← List.reverse_append, List.takeWhile_append_dropWhile, List.reverse_reverse]
  · exact List.mem_takeWhile_imp (List.mem_reverse.1 hc)

/-- A text cut behind its last character that is not blank loses only blanks. -/
theorem inked_take {s : List Char} {n : Nat} (h : (trimEnd s).length ≤ n) :
    inked (s.take n) = inked s := by
  obtain ⟨blanks, hs, hb⟩ := trimEnd_append s
  have htake : s.take n = trimEnd s ++ blanks.take (n - (trimEnd s).length) := by
    conv_lhs => rw [← hs]
    rw [List.take_append, List.take_of_length_le h]
  have hall : inked s = inked (trimEnd s) ++ inked blanks := by
    rw [← inked_append, hs]
  rw [htake, hall, inked_append, inked_of_blank hb,
    inked_of_blank fun c hc => hb c (List.mem_of_mem_take hc)]

/-- A line that is too long loses only blanks at its end. -/
theorem inked_dropExcess (width : Nat) (s : List Char) : inked (dropExcess width s) = inked s := by
  obtain ⟨blanks, hs, -⟩ := trimEnd_append s
  have hlen := congrArg List.length hs
  rw [List.length_append] at hlen
  refine inked_take ?_
  omega

/-- A text between blanks keeps what is not blank. -/
theorem inked_splitOn {c : Char} (hc : isBlank c = true) (s : List Char) :
    (splitOn [c] s).flatMap inked = inked s := by
  induction s using splitOn.induct [c] with
  | case1 s hnil => cases hnil
  | case2 s hne hcut =>
    rw [splitOn_of_absent (cut?_eq_none_iff.1 hcut), List.flatMap_singleton]
  | case3 s hne before after hcut ih =>
    have hblank : inked [c] = [] := inked_of_blank fun d hd => by rwa [List.mem_singleton.1 hd]
    rw [splitOn_of_cut? hne hcut, List.flatMap_cons, ih, eq_append_of_cut? hcut, inked_append,
      inked_append, hblank, List.append_nil]

/-! ## Tabs -/

/-- A part in front of a tab goes on with a space at least, up to a multiple of eight cells. -/
theorem withSpaces_cons (part next : List Char) (parts : List (List Char)) :
    ∃ n, withSpaces (part :: next :: parts) =
        part ++ List.replicate (n + 1) ' ' ++ withSpaces (next :: parts) ∧
      8 ∣ cells (part ++ List.replicate (n + 1) ' ') := by
  refine ⟨(8 - cells (part ++ [' ']) % 8) % 8, ?_, ?_⟩
  · rw [withSpaces, List.replicate_succ]
    · simp only [List.append_assoc, List.singleton_append]
    · exact List.cons_ne_nil next parts
  · rw [List.replicate_succ, List.append_cons part ' ',
      cells_append_spaces (stateAfter_concat_fst part space_ne_joiner)]
    omega

/-- Tabs are written as blanks. -/
theorem inked_withSpaces (parts : List (List Char)) :
    inked (withSpaces parts) = parts.flatMap inked := by
  induction parts with
  | nil => rfl
  | cons part parts ih =>
    cases parts with
    | nil => simp [withSpaces]
    | cons next parts =>
      obtain ⟨n, h, -⟩ := withSpaces_cons part next parts
      rw [h, inked_append, inked_append, inked_replicate_space, List.append_nil, ih,
        ← List.flatMap_cons]

/-- Tabs are blanks, and blanks stand for them. -/
theorem inked_expandTabs (line : List Char) : inked (expandTabs line) = inked line := by
  rw [expandTabs, inked_withSpaces, inked_splitOn (by decide)]

/-! ## Words -/

/-- The first word of a line and the rest are the line; the rest does not start with a blank. -/
theorem append_of_spacedWord? {s word rest : List Char} (h : spacedWord? s = some (word, rest)) :
    word ++ rest = s ∧ rest.dropWhile isBlank = rest := by
  simp only [spacedWord?] at h
  split at h
  · cases h
  · obtain ⟨rfl, rfl⟩ := Prod.mk.inj (Option.some.inj h)
    constructor
    · simp only [List.append_assoc, List.takeWhile_append_dropWhile]
    · exact List.dropWhile_idempotent isBlank _

/-- A line has a word unless it is blank. -/
theorem spacedWord?_eq_none {s : List Char} : spacedWord? s = none ↔ s.dropWhile isBlank = [] := by
  simp only [spacedWord?, ite_eq_left_iff, reduceCtorEq, imp_false, not_not]
  cases hs : s.dropWhile isBlank with
  | nil => simp
  | cons c cs =>
    have hc : isBlank c = false := by
      have := List.head?_dropWhile_not isBlank s
      rw [hs] at this
      simpa using this
    simp [hc]

/-- The words of a line that does not start with a blank are the line. -/
theorem flatten_spacedWords {s : List Char} (h : spacedWords s ≠ [] ∨ s.dropWhile isBlank = s) :
    (spacedWords s).flatten = s := by
  fun_induction spacedWords s with
  | case1 s hnone =>
    have hs := h.resolve_left (not_not.2 rfl)
    rw [← hs, spacedWord?_eq_none.1 hnone]
    rfl
  | case2 s word rest hsome ih =>
    obtain ⟨hs, hrest⟩ := append_of_spacedWord? hsome
    rw [List.flatten_cons, ih (.inr hrest), hs]

/-- Breaking graphemes into lines loses none of them. -/
theorem flatten_chop (width : Nat) (line : List Char) (used : Nat) (gs : List Grapheme) :
    (chop width line used gs).flatten = line ++ gs.flatMap Grapheme.chars := by
  induction gs generalizing line used with
  | nil => simp [chop]
  | cons g gs ih =>
    rw [chop]
    split
    · rw [List.flatten_cons, ih, List.flatMap_cons]
    · rw [ih, List.flatMap_cons, List.append_assoc]

/-- Empty lines at the front hold nothing. -/
theorem flatten_dropWhile_isEmpty (ls : List (List Char)) :
    (ls.dropWhile List.isEmpty).flatten = ls.flatten := by
  induction ls with
  | nil => rfl
  | cons l ls ih => cases l <;> simp [ih]

/-- The last line and those before it are all lines. -/
theorem flatten_dropLast (ls : List (List Char)) :
    ls.dropLast.flatten ++ (ls.getLast?).getD [] = ls.flatten := by
  cases hlast : ls.getLast? with
  | none => simp [List.getLast?_eq_none_iff.1 hlast]
  | some l =>
    obtain ⟨front, rfl⟩ := List.getLast?_eq_some_iff.1 hlast
    simp

/-- Putting words on lines loses none of them. -/
theorem flatten_fill (overflow : Overflow) (width : Nat) (line : List Char) (used : Nat)
    (words : List (List Char)) :
    (fill overflow width line used words).flatten = line ++ words.flatten := by
  have hbefore (line : List Char) : (if line.isEmpty then [] else [line]).flatten = line := by
    cases line <;> simp
  induction words generalizing line used with
  | nil => simp [fill]
  | cons word rest ih =>
    simp only [fill]
    split
    · rw [ih, List.flatten_cons, List.append_assoc]
    split
    · have hparts : (chop width [] 0 (graphemes word)).flatten = word := by
        rw [flatten_chop, flatMap_graphemes, List.nil_append]
      have hkept : (if line.isEmpty then (chop width [] 0 (graphemes word)).dropWhile List.isEmpty
          else chop width [] 0 (graphemes word)).flatten = word := by
        split
        · rw [flatten_dropWhile_isEmpty, hparts]
        · exact hparts
      rw [List.flatten_append, List.flatten_append, hbefore, ih, List.append_assoc,
        ← List.append_assoc (List.flatten _), flatten_dropLast, hkept, List.flatten_cons]
    · rw [List.flatten_append, hbefore, ih, List.flatten_cons]

/-- Breaking a line loses nothing. -/
theorem flatten_breakLine (overflow : Overflow) (width : Nat) (line : List Char) :
    (breakLine overflow width line).flatten = line := by
  rw [breakLine]
  split
  · exact List.append_nil line
  · next hne => rw [flatten_fill, List.nil_append, flatten_spacedWords (.inl hne)]

/-- **Breaking a text into lines loses only blanks**: what is not blank stays, in its order. -/
theorem inked_brokenLines (overflow : Overflow) (width : Nat) (s : List Char) :
    (brokenLines overflow width s).flatMap inked = inked s := by
  have hline (line : List Char) :
      ((breakLine overflow width (expandTabs line)).map (dropExcess width)).flatMap inked =
        inked line := by
    rw [List.flatMap_map]
    simp only [inked_dropExcess]
    rw [← inked_flatten, flatten_breakLine, inked_expandTabs]
  rw [brokenLines, List.flatMap_assoc]
  simp only [hline]
  exact inked_splitOn (by decide) s

/-! ## Widths -/

/-- **A text that is cut to a width fits**, unless it starts with a joiner; an ellipsis needs a
cell. -/
theorem cells_truncate_le {overflow : Overflow} {width : Nat} {s : List Char}
    (hw : overflow = .fold ∨ 0 < width) (h : (truncate overflow width s).head? ≠ some joiner) :
    cells (truncate overflow width s) ≤ width := by
  unfold truncate at h ⊢
  split
  · next hfits => exact hfits
  · next hwide =>
    rw [if_neg hwide] at h
    cases overflow with
    | fold => exact cells_takeCells_graphemes_le_of_head h
    | ellipsis =>
      have hhead : (takeCells (width - 1) (graphemes s)).head? ≠ some joiner := by
        intro hj
        simp [hj] at h
      have hkept := cells_takeCells_graphemes_le_of_head hhead
      have hdots : StartsAnew ['…'] := by simp [StartsAnew]
      have happ := cells_append_le (takeCells (width - 1) (graphemes s)) hdots
      have hone : cells ['…'] = 1 := by rw [cells_singleton] <;> simp
      have hpos := hw.resolve_left Overflow.noConfusion
      simp only at happ ⊢
      omega

/-- **Every line of a wrapped text fits**, unless it starts with a joiner. -/
theorem cells_le_of_mem_wrap {width : Nat} {s line : List Char} (hl : line ∈ wrap width s)
    (h : line.head? ≠ some joiner) : cells line ≤ width := by
  obtain ⟨broken, -, rfl⟩ := List.mem_map.1 hl
  exact cells_truncate_le (.inl rfl) h

/-- **A text that fits has the whole width when it is padded.** -/
theorem cells_pad {width : Nat} {s : List Char} (h : cells s ≤ width) :
    cells (pad width s) = width := by
  rw [pad]
  cases hs : (stateAfter false none s).1 with
  | false =>
    have hfirst : cells (withMissing width s) = width := by
      rw [withMissing, cells_append_spaces hs]
      omega
    rw [withMissing, hfirst, Nat.sub_self, List.replicate_zero, List.append_nil, hfirst]
  | true =>
    cases hn : width - cells s with
    | zero =>
      have hfirst : withMissing width s = s := by simp [withMissing, hn]
      rw [hfirst, hfirst]
      omega
    | succ n =>
      have hfirst : cells (withMissing width s) = cells s + n := by
        rw [withMissing, hn, cells_append_spaces_of_joined hs]
      have hopen : (stateAfter false none (withMissing width s)).1 = false := by
        rw [withMissing, hn, List.replicate_succ', ← List.append_assoc]
        exact stateAfter_concat_fst _ space_ne_joiner
      rw [withMissing, cells_append_spaces hopen]
      omega

/-! ## Characters of lines -/

/-- What stands in a part of a text stands in the text, and it is not the separator. -/
theorem mem_of_mem_splitOn {c d : Char} {s part : List Char} (hp : part ∈ splitOn [d] s)
    (hc : c ∈ part) : c ∈ s ∧ c ≠ d := by
  refine ⟨?_, fun h => not_mem_of_mem_splitOn hp (h ▸ hc)⟩
  induction s using splitOn.induct [d] with
  | case1 s hnil => cases hnil
  | case2 s hne hcut =>
    rw [splitOn_of_absent (cut?_eq_none_iff.1 hcut), List.mem_singleton] at hp
    rwa [← hp]
  | case3 s hne before after hcut ih =>
    rw [splitOn_of_cut? hne hcut, List.mem_cons] at hp
    rw [eq_append_of_cut? hcut]
    rcases hp with rfl | hp
    · exact List.mem_append_left _ (List.mem_append_left _ hc)
    · exact List.mem_append_right _ (ih hp)

/-- A line holds no tabs any more, and spaces at most in addition. -/
theorem mem_of_mem_expandTabs {c : Char} {line : List Char} (h : c ∈ expandTabs line) :
    c = ' ' ∨ c ∈ line ∧ c ≠ '\t' := by
  have hparts {parts : List (List Char)} (h : c ∈ withSpaces parts) :
      c = ' ' ∨ ∃ part ∈ parts, c ∈ part := by
    induction parts with
    | nil => exact absurd h List.not_mem_nil
    | cons part parts ih =>
      cases parts with
      | nil => exact .inr ⟨part, List.mem_singleton_self part, h⟩
      | cons next parts =>
        obtain ⟨n, hn, -⟩ := withSpaces_cons part next parts
        rw [hn, List.mem_append, List.mem_append] at h
        rcases h with (h | h) | h
        · exact .inr ⟨part, List.mem_cons_self, h⟩
        · exact .inl (List.eq_of_mem_replicate h)
        · exact (ih h).imp_right fun ⟨p, hp, hc⟩ => ⟨p, List.mem_cons_of_mem _ hp, hc⟩
  refine (hparts h).imp_right ?_
  rintro ⟨part, hp, hc⟩
  exact mem_of_mem_splitOn hp hc

/-- What is on a broken line comes from the text, and is neither a tab nor a line feed, or is a
space. -/
theorem mem_of_mem_brokenLines {overflow : Overflow} {width : Nat} {s line : List Char} {c : Char}
    (hl : line ∈ brokenLines overflow width s) (hc : c ∈ line) :
    c = ' ' ∨ c ∈ s ∧ c ≠ '\t' ∧ c ≠ '\n' := by
  obtain ⟨whole, hwhole, hl⟩ := List.mem_flatMap.1 hl
  obtain ⟨broken, hbroken, rfl⟩ := List.mem_map.1 hl
  have hexpanded : c ∈ expandTabs whole := by
    rw [← flatten_breakLine overflow width (expandTabs whole)]
    exact List.mem_flatten.2 ⟨broken, hbroken, List.mem_of_mem_take hc⟩
  refine (mem_of_mem_expandTabs hexpanded).imp_right ?_
  rintro ⟨hmem, htab⟩
  obtain ⟨hs, hfeed⟩ := mem_of_mem_splitOn hwhole hmem
  exact ⟨hs, htab, hfeed⟩

/-- What is left of a text that is cut comes from it, or is a space or the ellipsis. -/
theorem mem_of_mem_truncate {overflow : Overflow} {width : Nat} {s : List Char} {c : Char}
    (h : c ∈ truncate overflow width s) : c ∈ s ∨ c = ' ' ∨ overflow = .ellipsis ∧ c = '…' := by
  have hkept {n : Nat} (h : c ∈ takeCells n (graphemes s)) : c ∈ s ∨ c = ' ' := by
    rw [← flatMap_graphemes s]
    exact mem_of_mem_takeCells h
  unfold truncate at h
  split at h
  · exact .inl h
  cases overflow with
  | fold => exact (hkept h).imp_right .inl
  | ellipsis =>
    rcases List.mem_append.1 h with h | h
    · exact (hkept h).imp_right .inl
    · exact .inr (.inr ⟨rfl, List.mem_singleton.1 h⟩)

/-- **The lines of a wrapped text are lines**: none holds a tab or a line feed, and what they hold
comes from the text, but for spaces. -/
theorem mem_of_mem_wrap {width : Nat} {s line : List Char} {c : Char} (hl : line ∈ wrap width s)
    (hc : c ∈ line) : c = ' ' ∨ c ∈ s ∧ c ≠ '\t' ∧ c ≠ '\n' := by
  obtain ⟨broken, hbroken, rfl⟩ := List.mem_map.1 hl
  rcases mem_of_mem_truncate hc with h | h | ⟨h, -⟩
  · exact mem_of_mem_brokenLines hbroken h
  · exact .inl h
  · cases h

end TaskQuery.Terminal
