import TaskQuery.Proofs.Terminal.Lines
import TaskQuery.Terminal.Tree

/-!
# Trees that fit

The guides in front of a label take four cells a level, and the label is broken into what is left of
the terminal.  So a tree is as wide as the terminal at most, as long as its guides are not wider.
-/

namespace TaskQuery.Terminal

open Text

/-! ## Indents -/

/-- A text that puts `n` cells in front of whatever comes next. -/
def IsIndent (s : List Char) (n : Nat) : Prop := ∀ t, cells (s ++ t) = n + cells t

/-- Nothing indents by nothing. -/
theorem isIndent_nil : IsIndent [] 0 := fun _ => (Nat.zero_add _).symm

/-- An indent behind an indent. -/
theorem IsIndent.append {s t : List Char} {m n : Nat} (hs : IsIndent s m) (ht : IsIndent t n) :
    IsIndent (s ++ t) (m + n) := by
  intro u
  rw [List.append_assoc, hs, ht, Nat.add_assoc]

/-- An indent takes its cells. -/
theorem IsIndent.cells_eq {s : List Char} {n : Nat} (h : IsIndent s n) : cells s = n := by
  have hnil := h []
  rwa [List.append_nil, cells_nil, Nat.add_zero] at hnil

/-- The characters of a narrow text indent by one cell each. -/
theorem isIndent_of_isNarrow {s : List Char} (h : IsNarrow s) : IsIndent s s.length := by
  induction s with
  | nil => exact isIndent_nil
  | cons c cs ih =>
    obtain ⟨⟨hc, hw⟩, hcs⟩ := List.forall_mem_cons.1 h
    intro t
    rw [List.cons_append, cells_cons_of_widening (by omega) hw, hc, ih hcs t, List.length_cons]
    omega

/-- Both guides indent by four cells. -/
theorem isIndent_guides (isLast : Bool) :
    IsIndent (Tree.guides isLast).1 4 ∧ IsIndent (Tree.guides isLast).2 4 := by
  cases isLast
  · exact ⟨isIndent_of_isNarrow (by decide +kernel), isIndent_of_isNarrow (by decide +kernel)⟩
  · exact ⟨isIndent_of_isNarrow (by decide +kernel), isIndent_of_isNarrow (by decide +kernel)⟩

namespace Tree

/-! ## Lines -/

mutual

/-- The number of levels below a node. -/
def height : Tree → Nat
  | node _ children => heights children

/-- The number of levels that trees take below the node they belong to. -/
def heights : List Tree → Nat
  | [] => 0
  | t :: ts => max (t.height + 1) (heights ts)

end

/-- A line of a label fits behind its indent, unless the indent is wider than the terminal. -/
theorem cells_le_of_mem_labelLines {width n : Nat} {first later label : List Char}
    (hfirst : IsIndent first n) (hlater : IsIndent later n) {line : List Char}
    (h : line ∈ labelLines width first later label) (hj : joiner ∉ line) :
    cells line ≤ max width n := by
  have hfits {indent inner : List Char} (hi : IsIndent indent n)
      (hinner : inner ∈ wrap (width - cells first) (plain label)) (hj : joiner ∉ indent ++ inner) :
      cells (indent ++ inner) ≤ max width n := by
    have hle := cells_le_of_mem_wrap hinner fun hhead =>
      hj (List.mem_append_right _ (List.mem_of_head? hhead))
    rw [hfirst.cells_eq] at hle
    rw [hi]
    omega
  rw [labelLines] at h
  split at h
  · exact absurd h List.not_mem_nil
  · next top more hlines =>
    rw [hlines] at hfits
    rcases List.mem_cons.1 h with rfl | h
    · exact hfits hfirst List.mem_cons_self hj
    · obtain ⟨inner, hinner, rfl⟩ := List.mem_map.1 h
      exact hfits hlater (List.mem_cons_of_mem _ hinner) hj

mutual

/-- Behind an indent, the lines of a tree fit. -/
theorem cells_le_of_mem_linesAfter {width n : Nat} {first later : List Char}
    (hfirst : IsIndent first n) (hlater : IsIndent later n) :
    ∀ (t : Tree) {line : List Char}, line ∈ linesAfter width first later t → joiner ∉ line →
      cells line ≤ max width (n + 4 * t.height)
  | node label children, line, h, hj => by
    rw [linesAfter, List.mem_append] at h
    rw [height]
    rcases h with h | h
    · have := cells_le_of_mem_labelLines hfirst hlater h hj
      omega
    · exact cells_le_of_mem_childLines hlater children h hj

/-- Behind an indent, the lines of the children of a node fit. -/
theorem cells_le_of_mem_childLines {width n : Nat} {before : List Char}
    (hbefore : IsIndent before n) :
    ∀ (ts : List Tree) {line : List Char}, line ∈ childLines width before ts → joiner ∉ line →
      cells line ≤ max width (n + 4 * heights ts)
  | [], line, h, _ => absurd h (by simp [childLines])
  | t :: ts, line, h, hj => by
    rw [childLines, List.mem_append] at h
    obtain ⟨hfirst, hlater⟩ := isIndent_guides ts.isEmpty
    rw [heights]
    rcases h with h | h
    · have := cells_le_of_mem_linesAfter (hbefore.append hfirst) (hbefore.append hlater) t h hj
      omega
    · have := cells_le_of_mem_childLines hbefore ts h hj
      omega

end

/-- **The lines of a tree fit** on a terminal that is wider than four cells for each level; lines
with joiners are left out. -/
theorem cells_le_of_mem_tree {width : Nat} {t : Tree} (hw : 4 * t.height ≤ width)
    {line : List Char} (h : line ∈ linesAfter width [] [] t) (hj : joiner ∉ line) :
    cells line ≤ width := by
  have hle := cells_le_of_mem_linesAfter isIndent_nil isIndent_nil t h hj
  omega

end Tree

end TaskQuery.Terminal
