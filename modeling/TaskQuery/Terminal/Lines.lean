import TaskQuery.Terminal.Markup
import TaskQuery.Text.Grapheme

/-!
# Lines of a terminal

Text is shown line by line.  Tabs go to the next multiple of eight cells; a line that is too long
is broken between words, and a word that is too long for a line is broken or cut.
-/

namespace TaskQuery.Terminal

/-- What happens to a word that is longer than a line. -/
inductive Overflow where
  /-- It goes on in the next line. -/
  | fold
  /-- It is cut, with an ellipsis at its end. -/
  | ellipsis
  deriving DecidableEq, Repr

/-- The parts of a line between tabs; every part but the last goes on with spaces to the next
multiple of eight cells, one space at least. -/
def withSpaces : List (List Char) → List Char
  | [] => []
  | [part] => part
  | part :: parts =>
    let start := part ++ [' ']
    start ++ List.replicate ((8 - Text.cells start % 8) % 8) ' ' ++ withSpaces parts

/-- Tabs as spaces. -/
def expandTabs (line : List Char) : List Char := withSpaces (Text.splitOn ['\t'] line)

/-- The first word of a line with the blanks at both of its sides, and the rest of the line. -/
def spacedWord? (s : List Char) : Option (List Char × List Char) :=
  let blanks := s.takeWhile Text.isBlank
  let afterBlanks := s.dropWhile Text.isBlank
  let word := afterBlanks.takeWhile fun c => !Text.isBlank c
  let afterWord := afterBlanks.dropWhile fun c => !Text.isBlank c
  if word = [] then none
  else some (blanks ++ word ++ afterWord.takeWhile Text.isBlank, afterWord.dropWhile Text.isBlank)

/-- A word takes characters away. -/
theorem length_of_spacedWord? {s word rest : List Char} (h : spacedWord? s = some (word, rest)) :
    rest.length < s.length := by
  simp only [spacedWord?] at h
  split at h
  · exact absurd h nofun
  · next hw =>
    obtain ⟨-, rfl⟩ := Prod.mk.inj (Option.some.inj h)
    have h1 := (List.dropWhile_suffix (l := s) Text.isBlank).length_le
    have h2 := congrArg List.length (List.takeWhile_append_dropWhile
      (l := s.dropWhile Text.isBlank) (p := fun c => !Text.isBlank c))
    have h3 := (List.dropWhile_suffix Text.isBlank
      (l := (s.dropWhile Text.isBlank).dropWhile fun c => !Text.isBlank c)).length_le
    have h4 := List.length_pos_iff.2 hw
    rw [List.length_append] at h2
    omega

/-- The words of a line, each with the blanks after it, the first also with those before it.
Blanks alone make no word. -/
def spacedWords (s : List Char) : List (List Char) :=
  match _h : spacedWord? s with
  | none => []
  | some (word, rest) => word :: spacedWords rest
termination_by s.length
decreasing_by exact length_of_spacedWord? _h

/-- Graphemes on lines that are no wider than `width`; `line` is the current one, which takes
`used` cells. -/
def chop (width : Nat) : (line : List Char) → (used : Nat) → List Text.Grapheme → List (List Char)
  | line, _, [] => [line]
  | line, used, g :: gs =>
    if used + g.width > width then line :: chop width g.chars g.width gs
    else chop width (line ++ g.chars) (used + g.width) gs

/-- Put words on lines; `line` holds what is on the current one, which takes `used` cells.  A text
does not start with an empty line. -/
def fill (overflow : Overflow) (width : Nat) :
    (line : List Char) → (used : Nat) → List (List Char) → List (List Char)
  | line, _, [] => [line]
  | line, used, word :: rest =>
    let length := Text.cells (Text.trimEnd word)
    let before := if line.isEmpty then [] else [line]
    if used + length ≤ width then
      fill overflow width (line ++ word) (used + Text.cells word) rest
    else if length > width && overflow = .fold then
      let parts := chop width [] 0 (Text.graphemes word)
      let parts := if line.isEmpty then parts.dropWhile List.isEmpty else parts
      let last := (parts.getLast?).getD []
      before ++ parts.dropLast ++ fill overflow width last (Text.cells last) rest
    else before ++ fill overflow width word (Text.cells word) rest

/-- Blanks at the end are dropped as far as the line has more than `width` characters. -/
def dropExcess (width : Nat) (s : List Char) : List Char :=
  let blanks := s.length - (Text.trimEnd s).length
  s.take (s.length - min blanks (s.length - width))

/-- A text with as many spaces after it as it lacks cells. -/
def withMissing (width : Nat) (s : List Char) : List Char :=
  s ++ List.replicate (width - Text.cells s) ' '

/-- A text with spaces up to a width.  When it ends in a joiner, the first space takes no cell and
one more is needed. -/
def pad (width : Nat) (s : List Char) : List Char := withMissing width (withMissing width s)

/-- A text that is no wider than a width. -/
def truncate (overflow : Overflow) (width : Nat) (s : List Char) : List Char :=
  if Text.cells s ≤ width then s
  else
    match overflow with
    | .fold => Text.takeCells width (Text.graphemes s)
    | .ellipsis => Text.takeCells (width - 1) (Text.graphemes s) ++ ['…']

/-- A line broken between its words; a line of blanks stays as it is. -/
def breakLine (overflow : Overflow) (width : Nat) (line : List Char) : List (List Char) :=
  match spacedWords line with
  | [] => [line]
  | words => fill overflow width [] 0 words

/-- The lines of a text; each may still be too wide by a word that is not broken. -/
def brokenLines (overflow : Overflow) (width : Nat) (s : List Char) : List (List Char) :=
  (Text.splitOn ['\n'] s).flatMap fun line =>
    (breakLine overflow width (expandTabs line)).map (dropExcess width)

/-- The lines of a text that is not broken between words; each may be too wide. -/
def unbrokenLines (s : List Char) : List (List Char) := (Text.splitOn ['\n'] s).map expandTabs

/-- The lines of a text in which words that are too long go on in the next line. -/
def wrap (width : Nat) (s : List Char) : List (List Char) :=
  (brokenLines .fold width s).map (truncate .fold width)

/-- Lines as text. -/
def ofLines (lines : List (List Char)) : List Char := lines.flatMap (· ++ ['\n'])

/-- Markup as it is shown. -/
def paragraph (width : Nat) (markup : List Char) : List Char :=
  ofLines (wrap width (plain markup))

end TaskQuery.Terminal
