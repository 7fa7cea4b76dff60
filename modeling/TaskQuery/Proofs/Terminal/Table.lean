import TaskQuery.Proofs.Terminal.Lines
import TaskQuery.Terminal.Table

/-!
# Tables that are straight

Every line of a table takes the same number of cells: those of its columns, and a border at both
sides of each.  This needs as many cells in a row as there are columns, and no joiner in them.  What
is shown of a table never takes more cells than the terminal has.
-/

namespace TaskQuery.Terminal

open Text

/-! ## Blocks -/

/-- Whether a joiner stands at the end does not depend on what took cells before. -/
theorem stateAfter_fst_congr (joined : Bool) (last last' : Option Char) (s : List Char) :
    (stateAfter joined last s).1 = (stateAfter joined last' s).1 := by
  induction s generalizing joined last last' with
  | nil => rfl
  | cons c cs ih =>
    cases joined with
    | true => exact ih _ _ _
    | false =>
      simp only [stateAfter]
      split <;> exact ih _ _ _

/-- A text that takes the same cells wherever it stands. -/
structure IsBlock (s : List Char) : Prop where
  /-- What comes before it does not matter. -/
  startsAnew : StartsAnew s
  /-- It does not change what comes after it. -/
  isOpen : (stateAfter false none s).1 = false

namespace IsBlock

variable {s t : List Char}

/-- Blocks side by side take the cells of both. -/
theorem cells_append (hs : IsBlock s) (ht : IsBlock t) : cells (s ++ t) = cells s + cells t :=
  Text.cells_append hs.isOpen ht.startsAnew

/-- Blocks side by side are a block. -/
theorem append (hs : IsBlock s) (ht : IsBlock t) : IsBlock (s ++ t) where
  startsAnew := hs.startsAnew.append ht.startsAnew
  isOpen := by
    rw [stateAfter_append, hs.isOpen, stateAfter_fst_congr _ _ none, ht.isOpen]

/-- A character that takes cells is a block. -/
theorem singleton {c : Char} (h : cellWidth c ≠ 0) : IsBlock [c] where
  startsAnew := h
  isOpen := by rw [stateAfter_singleton (ne_joiner_of_cellWidth h)]

/-- Nothing is a block. -/
theorem nil : IsBlock [] := ⟨trivial, rfl⟩

/-- Spaces are a block. -/
theorem spaces (n : Nat) : IsBlock (List.replicate n ' ') := by
  induction n with
  | zero => exact nil
  | succ n ih => exact (singleton (by simp)).append ih

/-- A text between two spaces is a block. -/
theorem between (s : List Char) : IsBlock (' ' :: s ++ [' ']) where
  startsAnew := by simp [StartsAnew]
  isOpen := stateAfter_concat_fst _ space_ne_joiner

/-- Blocks with a border in front of each take their cells and one more each. -/
theorem flatMap_border {border : Char} (hb : cellWidth border = 1) {ls : List (List Char)}
    (h : ∀ l ∈ ls, IsBlock l) :
    IsBlock (ls.flatMap (border :: ·)) ∧
      cells (ls.flatMap (border :: ·)) = totalWidth (ls.map cells) + ls.length := by
  have hone : IsBlock [border] := singleton (by omega)
  induction ls with
  | nil => exact ⟨nil, rfl⟩
  | cons l ls ih =>
    obtain ⟨hl, hls⟩ := List.forall_mem_cons.1 h
    obtain ⟨hblock, hcells⟩ := ih hls
    have hfirst : IsBlock (border :: l) := hone.append hl
    have hwidth : cells (border :: l) = 1 + cells l := by
      rw [← List.singleton_append, hone.cells_append hl, cells_singleton (by omega), hb]
    refine ⟨hfirst.append hblock, ?_⟩
    rw [List.flatMap_cons, hfirst.cells_append hblock, hwidth, hcells, List.map_cons, totalWidth,
      List.length_cons]
    omega

end IsBlock

/-- Parts between borders, with a border in front, are parts with a border in front of each. -/
theorem cons_join (border : Char) {ls : List (List Char)} (h : ls ≠ []) :
    border :: join [border] ls = ls.flatMap (border :: ·) := by
  induction ls with
  | nil => exact absurd rfl h
  | cons l ls ih =>
    cases ls with
    | nil => simp [join]
    | cons m ms =>
      rw [List.flatMap_cons, ← ih (List.cons_ne_nil m ms)]
      simp [join]

/-! ## Rows -/

namespace Table

/-- A line of a cell takes the cells of its column. -/
theorem cells_aligned (right : Bool) {width : Nat} {line : List Char} (hw : 0 < width)
    (hj : joiner ∉ line) : cells (aligned right width line) = width := by
  have hcut {line : List Char} (hj : joiner ∉ line) :
      cells (truncate .ellipsis width line) ≤ width := by
    refine cells_truncate_le (.inr hw) fun hhead => ?_
    rcases mem_of_mem_truncate (List.mem_of_head? hhead) with h | h | ⟨-, h⟩
    · exact hj h
    · exact absurd h (by decide)
    · exact absurd h (by decide)
  rw [aligned]
  split
  · have hmem : joiner ∉ trimEnd line := by
      obtain ⟨blanks, hs, -⟩ := trimEnd_append line
      exact fun h => hj (by rw [← hs]; exact List.mem_append_left _ h)
    have hfits := hcut hmem
    dsimp only
    rw [cells_replicate_space_append]
    omega
  · exact cells_pad (hcut hj)

/-- What a line of a cell holds comes from the cell, or is a space or the ellipsis. -/
theorem mem_of_mem_aligned {right : Bool} {width : Nat} {line : List Char} {c : Char}
    (h : c ∈ aligned right width line) : c ∈ line ∨ c = ' ' ∨ c = '…' := by
  have hcut {line : List Char} (h : c ∈ truncate .ellipsis width line) :
      c ∈ line ∨ c = ' ' ∨ c = '…' :=
    (mem_of_mem_truncate h).imp_right (Or.imp_right And.right)
  rw [aligned] at h
  split at h
  · obtain ⟨blanks, hs, -⟩ := trimEnd_append line
    rcases List.mem_append.1 h with h | h
    · exact .inr (.inl (List.eq_of_mem_replicate h))
    · exact (hcut h).imp_left fun h => by rw [← hs]; exact List.mem_append_left _ h
  · rw [pad, withMissing, withMissing, List.mem_append, List.mem_append] at h
    rcases h with (h | h) | h
    · exact hcut h
    · exact .inr (.inl (List.eq_of_mem_replicate h))
    · exact .inr (.inl (List.eq_of_mem_replicate h))

/-- The lines of a cell are blocks as wide as its column. -/
theorem isBlock_of_mem_cellLines {c : TableColumn} {width : Nat} {cell line : List Char}
    (hj : joiner ∉ cell) (h : line ∈ cellLines c width cell) : IsBlock line ∧ cells line = width := by
  obtain ⟨inside, hinside, rfl⟩ := List.mem_map.1 h
  refine ⟨.between _, ?_⟩
  have hw : 0 < width - 2 := by
    refine Nat.pos_of_ne_zero fun hzero => ?_
    rw [if_pos hzero] at hinside
    cases hinside
  rw [if_neg (by omega)] at hinside
  have hline : joiner ∉ inside := by
    intro hmem
    split at hinside
    · rcases mem_of_mem_brokenLines hinside hmem with h | ⟨h, -⟩
      · exact absurd h.symm space_ne_joiner
      · exact hj h
    · obtain ⟨whole, hwhole, rfl⟩ := List.mem_map.1 hinside
      rcases mem_of_mem_expandTabs hmem with h | ⟨h, -⟩
      · exact absurd h.symm space_ne_joiner
      · exact hj (mem_of_mem_splitOn hwhole h).1
  have haligned : joiner ∉ aligned c.alignsRight (width - 2) inside := by
    intro hmem
    rcases mem_of_mem_aligned hmem with h | h | h
    · exact hline h
    · exact absurd h (by decide)
    · exact absurd h (by decide)
  have hspace : StartsAnew [' '] := by simp [StartsAnew]
  rw [List.cons_append, cells_cons_of_widening (by simp) (by simp),
    Text.cells_append (stateAfter_fst_of_notMem haligned none) hspace, cells_aligned _ hw hline,
    cellWidth_space, cells_singleton (by simp), cellWidth_space]
  omega

/-- The part of a line of a row in a column: a line of the cell there, or spaces below it. -/
def segment (i : Nat) (part : (TableColumn × Nat) × List Char) : List Char :=
  ((cellLines part.1.1 part.1.2 part.2)[i]?).getD (List.replicate part.1.2 ' ')

/-- The part of a line in a column is a block as wide as the column. -/
theorem isBlock_segment (i : Nat) {part : (TableColumn × Nat) × List Char}
    (hj : joiner ∉ part.2) : IsBlock (segment i part) ∧ cells (segment i part) = part.1.2 := by
  rw [segment]
  cases hline : (cellLines part.1.1 part.1.2 part.2)[i]? with
  | none => exact ⟨.spaces _, cells_replicate_space _⟩
  | some line => exact isBlock_of_mem_cellLines hj (List.mem_of_getElem? hline)

/-- **A row is straight**: each of its lines takes the cells of the columns and of the borders. -/
theorem cells_of_mem_row {columns : List TableColumn} {border : Char} {widths : List Nat}
    {entries : List (List Char)} (hb : cellWidth border = 1) (hne : columns ≠ [])
    (hw : widths.length = columns.length) (he : entries.length = columns.length)
    (hj : ∀ cell ∈ entries, joiner ∉ cell) {line : List Char}
    (h : line ∈ row columns border widths entries) :
    cells line = totalWidth widths + columns.length + 1 := by
  obtain ⟨i, -, rfl⟩ := List.mem_map.1 h
  rw [List.map_map]
  have hsegments : ∀ l ∈ ((columns.zip widths).zip entries).map (segment i), IsBlock l := by
    intro l hl
    obtain ⟨part, hpart, rfl⟩ := List.mem_map.1 hl
    exact (isBlock_segment i (hj _ (List.of_mem_zip hpart).2)).1
  have hwidths : (((columns.zip widths).zip entries).map (segment i)).map cells = widths := by
    have hcells : ∀ part ∈ (columns.zip widths).zip entries, cells (segment i part) = part.1.2 :=
      fun part hpart => (isBlock_segment i (hj _ (List.of_mem_zip hpart).2)).2
    rw [List.map_map]
    calc ((columns.zip widths).zip entries).map (cells ∘ segment i)
        = (((columns.zip widths).zip entries).map Prod.fst).map Prod.snd := by
          rw [List.map_map]
          exact List.map_congr_left hcells
      _ = widths := by
          rw [List.map_fst_zip (by rw [List.length_zip]; omega), List.map_snd_zip (by omega)]
  have hlen : (((columns.zip widths).zip entries).map (segment i)).length = columns.length := by
    rw [List.length_map, List.length_zip, List.length_zip]
    omega
  have hnil : ((columns.zip widths).zip entries).map (segment i) ≠ [] := by
    rw [← List.length_pos_iff, hlen]
    exact List.length_pos_iff.2 hne
  obtain ⟨hblock, hcells⟩ := IsBlock.flatMap_border hb hsegments
  have hclose : IsBlock [border] := .singleton (by omega)
  show cells (border :: join [border] (((columns.zip widths).zip entries).map (segment i)) ++
    [border]) = _
  rw [cons_join border hnil, hblock.cells_append hclose, hcells, hwidths, hlen,
    cells_singleton (by omega), hb]

/-- A rule is as long as the columns below it and the borders between them. -/
theorem length_rule (left line crossing right : Char) {widths : List Nat} (hne : widths ≠ []) :
    (rule left line crossing right widths).length = totalWidth widths + widths.length + 1 := by
  have hjoin := congrArg List.length (cons_join crossing
    (show widths.map (List.replicate · line) ≠ [] from mt List.map_eq_nil_iff.1 hne))
  have hparts : ((widths.map (List.replicate · line)).flatMap (crossing :: ·)).length =
      totalWidth widths + widths.length := by
    clear hjoin hne
    induction widths with
    | nil => rfl
    | cons w ws ih =>
      rw [List.map_cons, List.flatMap_cons, List.length_append, ih, List.length_cons,
        List.length_replicate, totalWidth, List.length_cons]
      omega
  rw [List.length_cons, hparts] at hjoin
  rw [rule, List.length_append, List.length_cons, List.length_singleton]
  omega

/-- A rule is straight. -/
theorem cells_rule {left line crossing right : Char} {widths : List Nat} (hne : widths ≠ [])
    (h : IsNarrow [left, line, crossing, right]) :
    cells (rule left line crossing right widths) = totalWidth widths + widths.length + 1 := by
  have hinner : ∀ c ∈ crossing :: join [crossing] (widths.map (List.replicate · line)),
      c = crossing ∨ c = line := by
    intro c hc
    rw [cons_join crossing (mt List.map_eq_nil_iff.1 hne)] at hc
    obtain ⟨l, hl, hc⟩ := List.mem_flatMap.1 hc
    obtain ⟨w, -, rfl⟩ := List.mem_map.1 hl
    exact (List.mem_cons.1 hc).imp_right List.eq_of_mem_replicate
  rw [cells_eq_length, length_rule _ _ _ _ hne]
  intro c hc
  refine (h c ?_).1
  rcases List.mem_append.1 hc with hc | hc
  · rcases List.mem_cons.1 hc with rfl | hc
    · simp
    · rcases hinner c (List.mem_cons_of_mem _ hc) with rfl | rfl <;> simp
  · simp [List.mem_singleton.1 hc]

/-! ## Widths of columns -/

/-- Sharing out a width keeps the columns. -/
theorem length_takeShares (total shares : Nat) (parts : List (Bool × Nat × Nat)) :
    (takeShares total shares parts).length = parts.length := by
  induction parts generalizing total shares with
  | nil => rfl
  | cons part rest ih =>
    obtain ⟨marked, most, width⟩ := part
    rw [takeShares]
    split
    · rw [List.length_cons, ih, List.length_cons]
    · rw [List.length_cons, ih, List.length_cons]

/-- Reducing widths keeps the columns. -/
theorem length_reduce (total : Nat) (parts : List (Bool × Nat × Nat)) :
    (reduce total parts).length = parts.length := by
  rw [reduce, length_takeShares, List.length_map]

/-- Narrowing columns keeps them. -/
theorem length_narrow (room steps : Nat) {breaks : List Bool} {widths : List Nat}
    (h : breaks.length = widths.length) :
    (narrow room breaks steps widths).length = widths.length := by
  induction steps generalizing widths with
  | zero => rfl
  | succ steps ih =>
    have hreduced (total : Nat) (f : Bool × Nat → Bool × Nat × Nat) :
        (reduce total ((breaks.zip widths).map f)).length = widths.length := by
      rw [length_reduce, List.length_map, List.length_zip, h, Nat.min_self]
    simp only [narrow]
    split
    · rfl
    · rw [ih (h.trans (hreduced _ _).symm), hreduced]

/-- There is a width for each column. -/
theorem length_columnWidths (room : Nat) {breaks : List Bool} {natural : List Nat}
    (h : breaks.length = natural.length) :
    (columnWidths room breaks natural).length = natural.length := by
  simp only [columnWidths]
  split
  · rw [List.length_map]
  · rw [List.length_map, List.length_zip]
    split
    · rw [length_narrow _ _ (by rw [List.length_map, h]), List.length_map, Nat.min_self]
    · rw [length_reduce, List.length_map, List.length_map,
        length_narrow _ _ (by rw [List.length_map, h]), List.length_map, Nat.min_self]

/-- There is a width for each column of a table. -/
theorem length_widths (t : Table) (width : Nat) : (t.widths width).length = t.columns.length := by
  have hcells : t.cellsOf.length = t.columns.length := by
    rw [cellsOf, List.length_map, List.length_zipIdx]
  rw [widths, length_columnWidths]
  · rw [List.length_map, hcells]
  · rw [List.length_map, List.length_map, hcells]

/-! ## Tables -/

/-- A table with as many cells in each row as it has columns, and some columns. -/
structure IsRectangular (t : Table) : Prop where
  /-- There are columns. -/
  columns_ne_nil : t.columns ≠ []
  /-- Each row has a cell for each column. -/
  length_row : ∀ entries ∈ t.rows, entries.length = t.columns.length

/-- A table without joiners. -/
structure HasNoJoiner (t : Table) : Prop where
  /-- The titles have none. -/
  titles : ∀ c ∈ t.columns, joiner ∉ c.title.toList
  /-- The cells have none. -/
  cells : ∀ entries ∈ t.rows, ∀ cell ∈ entries, joiner ∉ cell

/-- What a line of a table is: a rule, or a line of the titles or of a row between borders. -/
inductive IsLine (t : Table) (widths : List Nat) (line : List Char) : Prop where
  /-- A rule. -/
  | rule {left across crossing right : Char}
      (narrow : IsNarrow [left, across, crossing, right])
      (eq : line = Table.rule left across crossing right widths)
  /-- A line of some cells. -/
  | row {border : Char} {entries : List (List Char)} (narrow : cellWidth border = 1)
      (entries_eq : entries = t.columns.map (·.title.toList) ∨ entries ∈ t.rows)
      (mem : line ∈ Table.row t.columns border widths entries)

/-- The lines of a table are rules, and lines of its titles and rows. -/
theorem isLine_of_mem {t : Table} {width : Nat} {line : List Char} (h : line ∈ t.lines width) :
    t.IsLine (t.widths width) line := by
  simp only [lines, List.mem_append, List.mem_singleton, List.mem_flatMap] at h
  rcases h with (((h | h) | h) | ⟨entries, hentries, h⟩) | h
  · exact .rule (by decide +kernel) h
  · exact .row (by decide +kernel) (.inl rfl) h
  · exact .rule (by decide +kernel) h
  · exact .row (by decide +kernel) (.inr hentries) h
  · exact .rule (by decide +kernel) h

/-- **A table is straight**: every line of it takes the same number of cells. -/
theorem cells_of_mem_lines {t : Table} (ht : t.IsRectangular) (hj : t.HasNoJoiner) {width : Nat}
    {line : List Char} (h : line ∈ t.lines width) :
    cells line = totalWidth (t.widths width) + t.columns.length + 1 := by
  have hlen := t.length_widths width
  cases isLine_of_mem h with
  | rule hnarrow heq =>
    have hne : t.widths width ≠ [] := by
      rw [← List.length_pos_iff, hlen]
      exact List.length_pos_iff.2 ht.columns_ne_nil
    rw [heq, cells_rule hne hnarrow, hlen]
  | row hnarrow hentries hmem =>
    refine cells_of_mem_row hnarrow ht.columns_ne_nil hlen ?_ ?_ hmem
    · rcases hentries with rfl | hentries
      · exact List.length_map _
      · exact ht.length_row _ hentries
    · rcases hentries with rfl | hentries
      · intro cell hcell
        obtain ⟨c, hc, rfl⟩ := List.mem_map.1 hcell
        exact hj.titles c hc
      · exact hj.cells _ hentries

/-- A line of a table starts with a border. -/
theorem head?_of_mem_lines {t : Table} {width : Nat} {line : List Char}
    (h : line ∈ t.lines width) : line.head? ≠ some joiner := by
  have hborder {c : Char} (hc : cellWidth c = 1) : some c ≠ some joiner := by
    rintro ⟨⟩
    rw [cellWidth_joiner] at hc
    cases hc
  cases isLine_of_mem h with
  | rule hnarrow heq =>
    rw [heq]
    exact hborder (hnarrow _ List.mem_cons_self).1
  | row hnarrow _ hmem =>
    obtain ⟨i, -, rfl⟩ := List.mem_map.1 hmem
    exact hborder hnarrow

/-- **What is shown of a table fits**: no line takes more cells than the terminal has, whatever the
table holds. -/
theorem cells_le_of_mem_shown {t : Table} {width : Nat} {line : List Char}
    (h : line ∈ (t.lines width).map (truncate .fold width)) : cells line ≤ width := by
  obtain ⟨whole, hwhole, rfl⟩ := List.mem_map.1 h
  unfold truncate
  split
  · next hfits => exact hfits
  · exact cells_takeCells_graphemes_le (head?_of_mem_lines hwhole) width

end Table

end TaskQuery.Terminal
