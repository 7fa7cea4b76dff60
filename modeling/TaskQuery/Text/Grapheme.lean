import TaskQuery.Text.Cells

/-!
# Graphemes

A text that is cut to a number of cells is cut between graphemes.  A grapheme is a character that
takes cells with the marks after it; a joiner takes in the next character as well.  What comes
before the first character that takes cells is a grapheme of no width.
-/

namespace TaskQuery.Text

/-- Characters that are shown together. -/
structure Grapheme where
  /-- The characters. -/
  chars : List Char
  /-- The cells they take. -/
  width : Nat
  deriving DecidableEq, Repr

/-- The graphemes of a text whose first one is under way: its characters so far, backwards, and
their width.  `joined` says that a joiner comes right before the rest. -/
def graphemesFrom : (joined : Bool) → (last : Option Char) → (chars : List Char) → (width : Nat) →
    List Char → List Grapheme
  | _, _, chars, width, [] => [⟨chars.reverse, width⟩]
  | true, last, chars, width, c :: cs => graphemesFrom false last (c :: chars) width cs
  | false, last, chars, width, c :: cs =>
    if c = joiner then graphemesFrom true last (c :: chars) width cs
    else if cellWidth c = 0 then
      graphemesFrom false (lastMeasured last c) (c :: chars) (width + addedWidth last c) cs
    else ⟨chars.reverse, width⟩ :: graphemesFrom false (some c) [c] (cellWidth c) cs

/-- The graphemes of a text. -/
def graphemes : List Char → List Grapheme
  | [] => []
  | c :: cs => graphemesFrom false (lastMeasured none c) [c] (cellWidth c) cs

/-- The graphemes at the front that take `width` cells; half of a wide one is a space. -/
def takeCells : (width : Nat) → List Grapheme → List Char
  | _, [] => []
  | width, g :: gs =>
    if width = 0 then []
    else if g.width ≤ width then g.chars ++ takeCells (width - g.width) gs
    else List.replicate width ' '

/-- The graphemes are all characters in order, behind those that were collected. -/
theorem flatMap_graphemesFrom (joined : Bool) (last : Option Char) (chars : List Char)
    (width : Nat) (s : List Char) :
    (graphemesFrom joined last chars width s).flatMap Grapheme.chars = chars.reverse ++ s := by
  fun_induction graphemesFrom joined last chars width s <;> simp_all

/-- No character is lost. -/
theorem flatMap_graphemes (s : List Char) : (graphemes s).flatMap Grapheme.chars = s := by
  cases s with
  | nil => rfl
  | cons c cs => simp [graphemes, flatMap_graphemesFrom]

end TaskQuery.Text
