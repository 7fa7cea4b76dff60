import TaskQuery.Terminal.Lines

/-!
# Trees

A tree is drawn with a line for each node, the children of a node below it and joined to it by
guides, four cells a level.
-/

namespace TaskQuery.Terminal

/-- A tree whose nodes have labels in markup. -/
inductive Tree where
  /-- A node with its children. -/
  | node (label : List Char) (children : List Tree)

namespace Tree

mutual

/-- Whether the labels of a tree can be shown. -/
def isBalanced : Tree → Bool
  | node label children => Terminal.isBalanced label && areBalanced children

/-- Whether the labels of all trees can be shown. -/
def areBalanced : List Tree → Bool
  | [] => true
  | t :: ts => t.isBalanced && areBalanced ts

end

/-- The guides in front of the first line of a node and of the lines below it. -/
def guides (isLast : Bool) : List Char × List Char :=
  if isLast then ("└── ".toList, "    ".toList) else ("├── ".toList, "│   ".toList)

/-- The lines of a label: `first` stands before the first one, `later` before the others. -/
def labelLines (width : Nat) (first later : List Char) (label : List Char) : List (List Char) :=
  match wrap (width - Text.cells first) (plain label) with
  | [] => []
  | line :: more => (first ++ line) :: more.map (later ++ ·)

mutual

/-- The lines of a tree: `first` stands before the first one, `later` before the others. -/
def linesAfter (width : Nat) (first later : List Char) : Tree → List (List Char)
  | node label children =>
    labelLines width first later label ++ childLines width later children

/-- The lines of the children of a node; `before` stands before each of them. -/
def childLines (width : Nat) (before : List Char) : List Tree → List (List Char)
  | [] => []
  | child :: rest =>
    let (first, later) := guides rest.isEmpty
    linesAfter width (before ++ first) (before ++ later) child ++ childLines width before rest

end

/-- A tree as it is shown. -/
def draw (width : Nat) (t : Tree) : List Char := ofLines (linesAfter width [] [] t)

end Tree

end TaskQuery.Terminal
