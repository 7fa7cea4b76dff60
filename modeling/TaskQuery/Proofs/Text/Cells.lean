import TaskQuery.Text.Grapheme

/-!
# Cells of a text

The cells of a text are added up from the left, and what comes before a character can change what
it takes: a joiner draws it in, and a selector widens the character before it.  A text that starts
with a character of its own is independent of what comes before it, up to a joiner; so the
graphemes of a text, put back together, take no more cells than their widths say.

A text that starts with a joiner is an exception.  The joiner is counted as a character in front
of nothing, and then it takes in the next one.
-/

namespace TaskQuery.Text

/-! ## Widths of characters -/

/-- A joiner takes no cell. -/
@[simp] theorem cellWidth_joiner : cellWidth joiner = 0 := by decide +kernel

/-- The selector of the wide form takes no cell. -/
@[simp] theorem cellWidth_widener : cellWidth widener = 0 := by decide +kernel

/-- A space takes one cell. -/
@[simp] theorem cellWidth_space : cellWidth ' ' = 1 := by decide +kernel

/-- An ellipsis takes one cell. -/
@[simp] theorem cellWidth_ellipsis : cellWidth '…' = 1 := by decide +kernel

/-- A space has no wide form. -/
@[simp] theorem widening_space : widening (some ' ') = 0 := by decide +kernel

/-- Nothing has no wide form. -/
@[simp] theorem widening_none : widening none = 0 := rfl

/-- A wide form takes one cell more. -/
theorem widening_le_one (last : Option Char) : widening last ≤ 1 := by
  cases last with
  | none => exact Nat.zero_le 1
  | some c => rw [widening]; split <;> omega

/-- A character that takes cells is not a joiner. -/
theorem ne_joiner_of_cellWidth {c : Char} (h : cellWidth c ≠ 0) : c ≠ joiner := by
  rintro rfl
  exact h cellWidth_joiner

/-- A character that takes cells is not the selector of the wide form. -/
theorem ne_widener_of_cellWidth {c : Char} (h : cellWidth c ≠ 0) : c ≠ widener := by
  rintro rfl
  exact h cellWidth_widener

/-- A text of characters that take one cell each and have no wide form. -/
def IsNarrow (s : List Char) : Prop := ∀ c ∈ s, cellWidth c = 1 ∧ widening (some c) = 0

/-- Texts are checked character by character. -/
instance (s : List Char) : Decidable (IsNarrow s) := List.decidableBAll _ s

/-- A character that takes cells is the last one to do so. -/
theorem lastMeasured_of_cellWidth (last : Option Char) {c : Char} (h : cellWidth c ≠ 0) :
    lastMeasured last c = some c := by
  rw [lastMeasured, if_neg (ne_widener_of_cellWidth h), if_neg h]

/-- A character that takes cells adds them. -/
theorem addedWidth_of_cellWidth (last : Option Char) {c : Char} (h : cellWidth c ≠ 0) :
    addedWidth last c = cellWidth c := by
  rw [addedWidth, if_neg (ne_widener_of_cellWidth h)]

/-! ## Cells from the left -/

/-- No text takes no cells. -/
@[simp] theorem cells_nil : cells [] = 0 := rfl

/-- A character that takes cells adds them to those of the rest. -/
theorem cellsFrom_cons_of_cellWidth (last : Option Char) {c : Char} (h : cellWidth c ≠ 0)
    (cs : List Char) :
    cellsFrom false last (c :: cs) = cellWidth c + cellsFrom false (some c) cs := by
  rw [cellsFrom, if_neg (ne_joiner_of_cellWidth h), addedWidth_of_cellWidth last h,
    lastMeasured_of_cellWidth last h]

/-- What is known of a text when the characters after it are counted: whether a joiner stands at
its end, and the last character that took cells. -/
def stateAfter : (joined : Bool) → (last : Option Char) → List Char → Bool × Option Char
  | joined, last, [] => (joined, last)
  | true, last, _ :: cs => stateAfter false last cs
  | false, last, c :: cs =>
    if c = joiner then stateAfter true last cs else stateAfter false (lastMeasured last c) cs

/-- The cells of a text and of what follows it. -/
theorem cellsFrom_append (joined : Bool) (last : Option Char) (s t : List Char) :
    cellsFrom joined last (s ++ t) = cellsFrom joined last s +
      cellsFrom (stateAfter joined last s).1 (stateAfter joined last s).2 t := by
  induction s generalizing joined last with
  | nil => simp [stateAfter, cellsFrom]
  | cons c cs ih =>
    cases joined with
    | true => simp only [List.cons_append, cellsFrom, stateAfter, ih]
    | false =>
      simp only [List.cons_append, cellsFrom, stateAfter]
      split
      · exact ih _ _
      · rw [ih, Nat.add_assoc]

/-- What is known after one text and another. -/
theorem stateAfter_append (joined : Bool) (last : Option Char) (s t : List Char) :
    stateAfter joined last (s ++ t) =
      stateAfter (stateAfter joined last s).1 (stateAfter joined last s).2 t := by
  fun_induction stateAfter joined last s <;> simp_all [stateAfter]

/-- One more character, after a text of which `width` and the state are known. -/
theorem cells_concat {s : List Char} {joined : Bool} {last : Option Char}
    (hs : stateAfter false none s = (joined, last)) (c : Char) :
    cells (s ++ [c]) = cells s + cellsFrom joined last [c] := by
  rw [cells, cellsFrom_append, hs, cells]

/-- The state after one more character. -/
theorem stateAfter_concat {s : List Char} {joined : Bool} {last : Option Char}
    (hs : stateAfter false none s = (joined, last)) (c : Char) :
    stateAfter false none (s ++ [c]) = stateAfter joined last [c] := by
  rw [stateAfter_append, hs]

/-- The last character that took cells makes a difference of one cell at most. -/
theorem cellsFrom_le_succ (joined : Bool) (last last' : Option Char) (s : List Char) :
    cellsFrom joined last s ≤ cellsFrom joined last' s + 1 := by
  induction s generalizing joined last last' with
  | nil => simp [cellsFrom]
  | cons c cs ih =>
    cases joined with
    | true => exact ih _ _ _
    | false =>
      by_cases hj : c = joiner
      · simp only [cellsFrom, if_pos hj]
        exact ih _ _ _
      by_cases hw : c = widener
      · have := widening_le_one last
        simp only [cellsFrom, if_neg hj, addedWidth, lastMeasured, if_pos hw]
        omega
      simp only [cellsFrom, if_neg hj, addedWidth, lastMeasured, if_neg hw]
      split
      · have := ih false last last'
        omega
      · omega

/-- A text that is empty or starts with a character that takes cells. -/
def StartsAnew : List Char → Prop
  | [] => True
  | c :: _ => cellWidth c ≠ 0

/-- What comes before a text that starts anew does not make it wider. -/
theorem cellsFrom_le_cells (joined : Bool) (last : Option Char) {s : List Char}
    (h : StartsAnew s) : cellsFrom joined last s ≤ cells s := by
  cases s with
  | nil => simp [cellsFrom]
  | cons c cs =>
    have hc : cellWidth c ≠ 0 := h
    rw [cells, cellsFrom_cons_of_cellWidth none hc]
    cases joined with
    | true =>
      have := cellsFrom_le_succ false last (some c) cs
      rw [cellsFrom]
      omega
    | false => exact Nat.le_of_eq (cellsFrom_cons_of_cellWidth last hc cs)

/-- Before a text that starts anew, the last character that took cells does not matter. -/
theorem cellsFrom_false_eq_cells (last : Option Char) {s : List Char} (h : StartsAnew s) :
    cellsFrom false last s = cells s := by
  cases s with
  | nil => rfl
  | cons c cs => rw [cells, cellsFrom_cons_of_cellWidth last h, cellsFrom_cons_of_cellWidth none h]

/-- A text that starts anew adds no more than its own cells. -/
theorem cells_append_le (s : List Char) {t : List Char} (h : StartsAnew t) :
    cells (s ++ t) ≤ cells s + cells t := by
  rw [cells, cellsFrom_append]
  exact Nat.add_le_add_left (cellsFrom_le_cells _ _ h) _

/-- Characters of one cell each take as many cells as they are. -/
theorem cells_eq_length {s : List Char} (h : ∀ c ∈ s, cellWidth c = 1) : cells s = s.length := by
  rw [cells]
  generalize none = last
  induction s generalizing last with
  | nil => rfl
  | cons c cs ih =>
    obtain ⟨hc, hcs⟩ := List.forall_mem_cons.1 h
    rw [cellsFrom_cons_of_cellWidth last (by omega), ih hcs, hc, List.length_cons, Nat.add_comm]

/-! ## Texts that no joiner ends -/

/-- Without joiners, none stands at the end. -/
theorem stateAfter_fst_of_notMem {s : List Char} (h : joiner ∉ s) (last : Option Char) :
    (stateAfter false last s).1 = false := by
  induction s generalizing last with
  | nil => rfl
  | cons c cs ih =>
    obtain ⟨hc, hcs⟩ := not_or.1 (mt List.mem_cons.2 h)
    rw [stateAfter, if_neg (Ne.symm hc)]
    exact ih hcs _

/-- A character other than a joiner is not followed as one. -/
theorem stateAfter_concat_fst (s : List Char) {c : Char} (hc : c ≠ joiner) :
    (stateAfter false none (s ++ [c])).1 = false := by
  rw [stateAfter_append]
  cases (stateAfter false none s).1 <;> simp [stateAfter, hc]

/-- After a text that no joiner ends, a text that starts anew adds exactly its own cells. -/
theorem cells_append {s t : List Char} (hs : (stateAfter false none s).1 = false)
    (ht : StartsAnew t) : cells (s ++ t) = cells s + cells t := by
  rw [cells, cellsFrom_append, hs, cellsFrom_false_eq_cells _ ht]
  rfl

/-- After a character that takes cells and has no wide form, a text adds what it takes on its
own. -/
theorem cells_cons_of_widening {c : Char} (hc : cellWidth c ≠ 0) (hw : widening (some c) = 0)
    (s : List Char) : cells (c :: s) = cellWidth c + cells s := by
  rw [cells, cellsFrom_cons_of_cellWidth none hc, cells, Nat.add_left_cancel_iff]
  suffices h : ∀ last, widening last = 0 → ∀ joined,
      cellsFrom joined last s = cellsFrom joined none s from h _ hw _
  clear hw hc c
  induction s with
  | nil => intros; rfl
  | cons c cs ih =>
    rintro last hw (_ | _)
    · by_cases hj : c = joiner
      · simpa only [cellsFrom, if_pos hj] using ih last hw true
      by_cases hs : c = widener
      · simp only [cellsFrom, if_neg hj, addedWidth, lastMeasured, if_pos hs, hw, widening_none]
      simp only [cellsFrom, if_neg hj, addedWidth, lastMeasured, if_neg hs]
      split
      · rw [ih last hw false]
      · rfl
    · exact ih last hw false

/-- Spaces take one cell each. -/
@[simp] theorem cells_replicate_space (n : Nat) : cells (List.replicate n ' ') = n := by
  induction n with
  | zero => rfl
  | succ n ih =>
    rw [List.replicate_succ, cells_cons_of_widening (by simp) (by simp), ih, cellWidth_space]
    omega

/-- Spaces in front add one cell each. -/
theorem cells_replicate_space_append (n : Nat) (s : List Char) :
    cells (List.replicate n ' ' ++ s) = n + cells s := by
  induction n with
  | zero => simp
  | succ n ih =>
    rw [List.replicate_succ, List.cons_append, cells_cons_of_widening (by simp) (by simp), ih,
      cellWidth_space]
    omega

/-- Spaces start anew. -/
theorem startsAnew_replicate_space (n : Nat) : StartsAnew (List.replicate n ' ') := by
  cases n with
  | zero => trivial
  | succ n => simp [StartsAnew, List.replicate_succ]

/-- A space is no joiner. -/
theorem space_ne_joiner : ' ' ≠ joiner := by decide

/-- After a text that no joiner ends, spaces take one cell each. -/
theorem cells_append_spaces {s : List Char} (hs : (stateAfter false none s).1 = false) (n : Nat) :
    cells (s ++ List.replicate n ' ') = cells s + n := by
  rw [cells_append hs (startsAnew_replicate_space n), cells_replicate_space]

/-- The first space after a joiner takes no cell. -/
theorem cells_append_spaces_of_joined {s : List Char} (hs : (stateAfter false none s).1 = true)
    (n : Nat) : cells (s ++ List.replicate (n + 1) ' ') = cells s + n := by
  have hfirst : cells (s ++ [' ']) = cells s := by
    rw [cells, cellsFrom_append, hs]
    rfl
  rw [List.replicate_succ, List.append_cons,
    cells_append_spaces (stateAfter_concat_fst s space_ne_joiner), hfirst]

/-! ## Graphemes -/

/-- A character that takes cells, on its own. -/
theorem cells_singleton {c : Char} (h : cellWidth c ≠ 0) : cells [c] = cellWidth c := by
  rw [cells, cellsFrom_cons_of_cellWidth none h]
  rfl

/-- The state after a character that takes cells. -/
theorem stateAfter_singleton {c : Char} (h : c ≠ joiner) :
    stateAfter false none [c] = (false, lastMeasured none c) := by
  simp only [stateAfter, if_neg h]

/-- No grapheme is wider than its width says, when this is so of the one that is under way. -/
theorem cells_le_of_mem_graphemesFrom {joined : Bool} {last : Option Char} {chars : List Char}
    {width : Nat} {s : List Char} (hw : cells chars.reverse ≤ width)
    (hs : stateAfter false none chars.reverse = (joined, last)) {g : Grapheme}
    (hg : g ∈ graphemesFrom joined last chars width s) : cells g.chars ≤ g.width := by
  fun_induction graphemesFrom joined last chars width s with
  | case1 joined last chars width =>
    obtain rfl := List.mem_singleton.1 hg
    exact hw
  | case2 last chars width c cs ih =>
    refine ih ?_ ?_ hg
    · rw [List.reverse_cons, cells_concat hs]
      exact hw
    · rw [List.reverse_cons, stateAfter_concat hs]
      rfl
  | case3 last chars width cs ih =>
    refine ih ?_ ?_ hg
    · rw [List.reverse_cons, cells_concat hs]
      exact hw
    · rw [List.reverse_cons, stateAfter_concat hs]
      rfl
  | case4 last chars width c cs hj h0 ih =>
    refine ih ?_ ?_ hg
    · rw [List.reverse_cons, cells_concat hs, cellsFrom, if_neg hj]
      exact Nat.add_le_add_right hw _
    · rw [List.reverse_cons, stateAfter_concat hs, stateAfter, if_neg hj]
      rfl
  | case5 last chars width c cs hj h0 ih =>
    rcases List.mem_cons.1 hg with rfl | hg
    · exact hw
    · refine ih ?_ ?_ hg
      · exact Nat.le_of_eq (cells_singleton h0)
      · rw [List.reverse_singleton, stateAfter_singleton hj, lastMeasured_of_cellWidth none h0]

/-- A text that goes on starts as before. -/
theorem StartsAnew.append {s t : List Char} (hs : StartsAnew s) (ht : StartsAnew t) :
    StartsAnew (s ++ t) := by
  cases s with
  | nil => exact ht
  | cons c cs => exact hs

/-- A text that is not empty starts as before whatever comes next. -/
theorem StartsAnew.concat {s : List Char} (hs : StartsAnew s) (hne : s ≠ []) (c : Char) :
    StartsAnew (s ++ [c]) := by
  cases s with
  | nil => exact absurd rfl hne
  | cons d ds => exact hs

/-- Every grapheme starts anew when the one under way does. -/
theorem startsAnew_of_mem_graphemesFrom {joined : Bool} {last : Option Char} {chars : List Char}
    {width : Nat} {s : List Char} (hne : chars.reverse ≠ []) (hc : StartsAnew chars.reverse)
    {g : Grapheme} (hg : g ∈ graphemesFrom joined last chars width s) : StartsAnew g.chars := by
  fun_induction graphemesFrom joined last chars width s with
  | case1 joined last chars width =>
    obtain rfl := List.mem_singleton.1 hg
    exact hc
  | case2 last chars width c cs ih
  | case3 last chars width cs ih
  | case4 last chars width c cs hj h0 ih =>
    rw [List.reverse_cons] at ih
    exact ih (by simp) (hc.concat hne _) hg
  | case5 last chars width c cs hj h0 ih =>
    rcases List.mem_cons.1 hg with rfl | hg
    · exact hc
    · exact ih (by simp) h0 hg

/-- Every grapheme but the one under way starts anew. -/
theorem startsAnew_of_mem_tail_graphemesFrom {joined : Bool} {last : Option Char}
    {chars : List Char} {width : Nat} {s : List Char} {g : Grapheme}
    (hg : g ∈ (graphemesFrom joined last chars width s).tail) : StartsAnew g.chars := by
  fun_induction graphemesFrom joined last chars width s with
  | case1 => exact absurd hg List.not_mem_nil
  | case2 _ _ _ _ _ ih
  | case3 _ _ _ _ ih
  | case4 _ _ _ _ _ _ _ ih => exact ih hg
  | case5 last chars width c cs hj h0 =>
    have hc : StartsAnew [c].reverse := h0
    exact startsAnew_of_mem_graphemesFrom (by simp) hc hg

/-- What is taken from the front of graphemes that start anew starts anew. -/
theorem startsAnew_takeCells (width : Nat) {gs : List Grapheme}
    (h : ∀ g ∈ gs, StartsAnew g.chars) : StartsAnew (takeCells width gs) := by
  induction gs generalizing width with
  | nil => trivial
  | cons g gs ih =>
    obtain ⟨hg, hgs⟩ := List.forall_mem_cons.1 h
    rw [takeCells]
    split
    · trivial
    split
    · exact hg.append (ih _ hgs)
    · exact startsAnew_replicate_space width

/-- What is taken from the front of graphemes takes no more cells than it may, when the graphemes
are no wider than they say and all but the first start anew. -/
theorem cells_takeCells_le (width : Nat) {gs : List Grapheme}
    (hw : ∀ g ∈ gs, cells g.chars ≤ g.width) (hs : ∀ g ∈ gs.tail, StartsAnew g.chars) :
    cells (takeCells width gs) ≤ width := by
  induction gs generalizing width with
  | nil => exact Nat.zero_le _
  | cons g gs ih =>
    obtain ⟨hg, hgs⟩ := List.forall_mem_cons.1 hw
    rw [List.tail_cons] at hs
    rw [takeCells]
    split
    · exact Nat.zero_le _
    split
    · next hle =>
      have hrest := ih (width - g.width) hgs fun g h => hs g (List.mem_of_mem_tail h)
      have happ := cells_append_le g.chars (startsAnew_takeCells (width - g.width) hs)
      omega
    · exact Nat.le_of_eq (cells_replicate_space width)

/-- What is taken from the front of a text takes no more cells than it may, unless the text starts
with a joiner. -/
theorem cells_takeCells_graphemes_le {s : List Char} (h : s.head? ≠ some joiner) (width : Nat) :
    cells (takeCells width (graphemes s)) ≤ width := by
  cases s with
  | nil => exact Nat.zero_le _
  | cons c cs =>
    have hc : c ≠ joiner := by simpa using h
    have hw : cells [c].reverse ≤ cellWidth c := by
      simp only [List.reverse_singleton, cells, cellsFrom, if_neg hc, addedWidth]
      split <;> simp
    have hstate : stateAfter false none [c].reverse = (false, lastMeasured none c) :=
      stateAfter_singleton hc
    exact cells_takeCells_le width (fun g hg => cells_le_of_mem_graphemesFrom hw hstate hg)
      fun g hg => startsAnew_of_mem_tail_graphemesFrom hg

/-- A grapheme before the first character that takes cells has no width. -/
theorem graphemesFrom_none (joined : Bool) (chars s : List Char) :
    ∃ more gs, graphemesFrom joined none chars 0 s = ⟨chars.reverse ++ more, 0⟩ :: gs := by
  induction s generalizing joined chars with
  | nil => exact ⟨[], [], by simp [graphemesFrom]⟩
  | cons c cs ih =>
    have hcons (joined : Bool) :
        ∃ more gs,
          graphemesFrom joined none (c :: chars) 0 cs = ⟨chars.reverse ++ more, 0⟩ :: gs := by
      obtain ⟨more, gs, h⟩ := ih joined (c :: chars)
      exact ⟨c :: more, gs, by simpa using h⟩
    cases joined with
    | true => exact hcons false
    | false =>
      rw [graphemesFrom]
      split
      · exact hcons true
      split
      · next h0 => simpa [lastMeasured, addedWidth, h0] using hcons false
      · exact ⟨[], _, by rw [List.append_nil]⟩

/-- A text that starts with a joiner still does when it is cut to some cells. -/
theorem head?_takeCells_graphemes {s : List Char} (h : s.head? = some joiner) {width : Nat}
    (hw : 0 < width) : (takeCells width (graphemes s)).head? = some joiner := by
  obtain ⟨cs, rfl⟩ := List.head?_eq_some_iff.1 h
  obtain ⟨more, gs, hg⟩ := graphemesFrom_none false [joiner] cs
  have hlast : lastMeasured none joiner = none := by simp [lastMeasured]
  rw [graphemes, hlast, cellWidth_joiner, hg, takeCells, if_neg (by omega), if_pos (by simp)]
  rfl

/-- **A text cut to some cells takes no more than those**, unless a joiner is at its front. -/
theorem cells_takeCells_graphemes_le_of_head {s : List Char} {width : Nat}
    (h : (takeCells width (graphemes s)).head? ≠ some joiner) :
    cells (takeCells width (graphemes s)) ≤ width := by
  rcases Nat.eq_zero_or_pos width with rfl | hw
  · cases graphemes s <;> simp [takeCells]
  · exact cells_takeCells_graphemes_le (fun hs => h (head?_takeCells_graphemes hs hw)) width

/-- What is taken from the front of graphemes is theirs, or a space. -/
theorem mem_of_mem_takeCells {width : Nat} {gs : List Grapheme} {c : Char}
    (h : c ∈ takeCells width gs) : c ∈ gs.flatMap Grapheme.chars ∨ c = ' ' := by
  induction gs generalizing width with
  | nil => exact absurd h List.not_mem_nil
  | cons g gs ih =>
    rw [takeCells] at h
    split at h
    · exact absurd h List.not_mem_nil
    split at h
    · rcases List.mem_append.1 h with h | h
      · exact .inl (List.mem_append_left _ h)
      · exact (ih h).imp_left (List.mem_append_right _)
    · exact .inr (List.eq_of_mem_replicate h)

end TaskQuery.Text
