import TaskQuery.Number.Binary64
import TaskQuery.Terminal.Lines

/-!
# Tables

A table has a heavy head and light rows, one blank at both sides of each cell, and columns as wide
as their widest cell.  A table that is too wide for the terminal first takes room from the widest
columns that break lines, down to the next widest one, and then from all columns alike.
-/

namespace TaskQuery.Terminal

/-- A column of a table. -/
structure TableColumn where
  /-- The title. -/
  title : String
  /-- Whether cells stand at the right. -/
  alignsRight : Bool := false
  /-- Whether cells that are too wide go on in the next line; otherwise they are cut. -/
  breaks : Bool := true

/-- A table; each row has a cell for each column. -/
structure Table where
  /-- The columns. -/
  columns : List TableColumn
  /-- The rows, cell by cell. -/
  rows : List (List (List Char))

/-- A character that ends a line when the width of a text is measured. -/
def isLineBreak (c : Char) : Bool :=
  let n := c.toNat
  (0xa ≤ n && n ≤ 0xd) || (0x1c ≤ n && n ≤ 0x1e) || n = 0x85 || n = 0x2028 || n = 0x2029

/-- The lines of a text whose width is measured; `line` is the current one so far, backwards. -/
def measuredLines : (line : List Char) → List Char → List (List Char)
  | line, [] => [line.reverse]
  | line, c :: cs =>
    if isLineBreak c then line.reverse :: measuredLines [] cs else measuredLines (c :: line) cs

/-- The width of the widest line of a text. -/
def widestLine (s : List Char) : Nat := ((measuredLines [] s).map Text.cells).foldl max 0

/-! ### Widths -/

/-- The width of columns side by side. -/
def totalWidth : List Nat → Nat
  | [] => 0
  | w :: ws => w + totalWidth ws

/-- Take `total` from the widths that are marked, in equal shares of which none exceeds `most`. -/
def takeShares : (total shares : Nat) → List (Bool × Nat × Nat) → List Nat
  | _, _, [] => []
  | total, shares, (marked, most, width) :: rest =>
    if marked && shares > 0 then
      let share := min most (roundQuotient total shares)
      (width - share) :: takeShares (total - share) (shares - 1) rest
    else width :: takeShares total shares rest

/-- Take `total` from the marked widths in equal shares. -/
def reduce (total : Nat) (parts : List (Bool × Nat × Nat)) : List Nat :=
  let parts := parts.map fun (marked, most, width) => (marked && most > 0, most, width)
  takeShares total (parts.filter (·.1)).length parts

/-- Take room from the widest columns that break lines until the widths fit into `room`, as often
as `steps` allows. -/
def narrow (room : Nat) (breaks : List Bool) : (steps : Nat) → List Nat → List Nat
  | 0, widths => widths
  | steps + 1, widths =>
    let excess := totalWidth widths - room
    let flexible := (breaks.zip widths).filter (·.1) |>.map (·.2)
    let widest := flexible.foldl max 0
    let next := (flexible.filter (· ≠ widest)).foldl max 0
    if excess = 0 || widest = next then widths
    else
      let most := min excess (widest - next)
      let parts := (breaks.zip widths).map fun (b, w) => (b && w = widest, most, w)
      narrow room breaks steps (reduce excess parts)

/-- The widths of the columns, blanks included, in `room` cells. -/
def columnWidths (room : Nat) (breaks : List Bool) (natural : List Nat) : List Nat :=
  let natural := natural.map fun w => min room (max 1 w)
  if totalWidth natural ≤ room then natural
  else
    let narrowed := narrow room breaks (totalWidth natural) natural
    let widths := if totalWidth narrowed ≤ room then narrowed
      else reduce (totalWidth narrowed - room) (narrowed.map fun w => (true, w, w))
    (natural.zip widths).map fun (a, b) => min a b

namespace Table

/-- The cells of each column. -/
def cellsOf (t : Table) : List (TableColumn × List (List Char)) :=
  t.columns.zipIdx.map fun (c, i) => (c, t.rows.map fun row => (row[i]?).getD [])

/-- The widths of the columns on a terminal. -/
def widths (t : Table) (width : Nat) : List Nat :=
  let natural := t.cellsOf.map fun (c, cells) =>
    ((c.title.toList :: cells).map widestLine).foldl max 0 + 2
  columnWidths (width - (t.columns.length + 1)) (t.columns.map (·.breaks)) natural

/-! ### Drawing -/

/-- A line of a cell in `width` cells. -/
def aligned (right : Bool) (width : Nat) (line : List Char) : List Char :=
  if right then
    let line := truncate .ellipsis width (Text.trimEnd line)
    List.replicate (width - Text.cells line) ' ' ++ line
  else pad width (truncate .ellipsis width line)

/-- The lines of a cell, each of the width of its column; none where only the blanks fit. -/
def cellLines (c : TableColumn) (width : Nat) (cell : List Char) : List (List Char) :=
  let inner := width - 2
  let lines := if inner = 0 then [] else if c.breaks then brokenLines .ellipsis inner cell
    else unbrokenLines cell
  lines.map fun line => ' ' :: aligned c.alignsRight inner line ++ [' ']

/-- A rule across the table. -/
def rule (left line crossing right : Char) (widths : List Nat) : List Char :=
  left :: Text.join [crossing] (widths.map fun w => List.replicate w line) ++ [right]

/-- A row of cells that is as high as its highest cell. -/
def row (columns : List TableColumn) (border : Char) (widths : List Nat)
    (cells : List (List Char)) : List (List Char) :=
  let blocks := ((columns.zip widths).zip cells).map fun ((c, w), cell) => (w, cellLines c w cell)
  let height := (blocks.map fun b => b.2.length).foldl max 1
  (List.range height).map fun i =>
    border :: Text.join [border] (blocks.map fun (w, lines) =>
      (lines[i]?).getD (List.replicate w ' ')) ++ [border]

/-- The lines of a table on a terminal. -/
def lines (t : Table) (width : Nat) : List (List Char) :=
  let widths := t.widths width
  let titles := t.columns.map fun c => c.title.toList
  [rule '┏' '━' '┳' '┓' widths] ++ row t.columns '┃' widths titles ++
    [rule '┡' '━' '╇' '┩' widths] ++ t.rows.flatMap (row t.columns '│' widths) ++
    [rule '└' '─' '┴' '┘' widths]

/-- A table as it is shown; what does not fit on the terminal is cut off. -/
def draw (t : Table) (width : Nat) : List Char :=
  ofLines ((t.lines width).map (truncate .fold width))

end Table

end TaskQuery.Terminal
