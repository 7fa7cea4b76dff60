import TaskQuery.Terminal.ShortNames
import TaskQuery.Text.Casing

/-!
# Markup

Text for a terminal names its styles in tags: `[name]` opens a style and `[/name]` closes it.  A
backslash in front of a tag makes it text, and two backslashes there stand for one.  Text from
elsewhere is escaped before it is put into markup.

A closing tag has to close a style that is open, or else the markup cannot be shown.

Colours are not written; what remains of markup is its text, with pictographs for their short
names and without the control characters that would move the cursor.
-/

namespace TaskQuery.Terminal

/-- A part of markup. -/
inductive Piece where
  /-- A character. -/
  | char (c : Char)
  /-- A tag, and the backslashes in front of it. -/
  | tag (slashes : Nat) (name : List Char)
  deriving DecidableEq, Repr

/-- A character that a tag may start with. -/
def startsTag (c : Char) : Bool :=
  ('a' ≤ c && c ≤ 'z') || c = '#' || c = '/' || c = '@'

/-- The name of the tag after an opening bracket, and the rest after its closing bracket. -/
def tagAfter? : List Char → Option (List Char × List Char)
  | [] => none
  | c :: cs =>
    if startsTag c then
      let inner := cs.takeWhile fun d => d ≠ ']' && d ≠ '['
      match cs.drop inner.length with
      | ']' :: rest => some (c :: inner, rest)
      | _ => none
    else none

/-- A tag takes characters away. -/
theorem length_of_tagAfter? {s name rest : List Char} (h : tagAfter? s = some (name, rest)) :
    rest.length < s.length := by
  unfold tagAfter? at h
  split at h
  · simp at h
  · next c cs =>
    split at h
    · dsimp only at h
      split at h
      · next hd =>
        obtain ⟨-, rfl⟩ := by simpa using h
        have := congrArg List.length hd
        simp only [List.length_drop, List.length_cons] at this ⊢
        omega
      · simp at h
    · simp at h

/-- The tag at the front, with the backslashes before it, and the rest. -/
def leadingTag? (s : List Char) : Option (Nat × List Char × List Char) :=
  match s.dropWhile (· = '\\') with
  | '[' :: cs =>
    (tagAfter? cs).map fun (name, rest) => ((s.takeWhile (· = '\\')).length, name, rest)
  | _ => none

/-- A tag at the front takes characters away. -/
theorem length_of_leadingTag? {s name rest : List Char} {n : Nat}
    (h : leadingTag? s = some (n, name, rest)) : rest.length < s.length := by
  unfold leadingTag? at h
  split at h
  · next cs hd =>
    simp only [Option.map_eq_some_iff, Prod.mk.injEq, Prod.exists] at h
    obtain ⟨_, r, ht, -, -, rfl⟩ := h
    have h1 := length_of_tagAfter? ht
    have h2 := (List.dropWhile_suffix (l := s) (· = '\\')).length_le
    rw [hd] at h2
    simp only [List.length_cons] at h2
    omega
  · simp at h

/-- The parts of markup. -/
def pieces (s : List Char) : List Piece :=
  match s with
  | [] => []
  | c :: cs =>
    match _h : leadingTag? (c :: cs) with
    | some (slashes, name, rest) => .tag slashes name :: pieces rest
    | none => .char c :: pieces cs
termination_by s.length
decreasing_by
  · exact length_of_leadingTag? _h
  · exact Nat.lt_succ_self _

/-- A tag as it is written. -/
def bracketed (name : List Char) : List Char := '[' :: name ++ [']']

/-- A part as it is escaped: a backslash more than twice as many make a tag text. -/
def Piece.escape : Piece → List Char
  | char c => [c]
  | tag slashes name => List.replicate (2 * slashes + 1) '\\' ++ bracketed name

/-- Whether a text ends in one backslash and not in more. -/
def endsInBackslash (s : List Char) : Bool :=
  match s.reverse with
  | '\\' :: '\\' :: _ => false
  | '\\' :: _ => true
  | _ => false

/-- Text as it is put into markup. -/
def escape (s : List Char) : List Char :=
  let escaped := (pieces s).flatMap Piece.escape
  if endsInBackslash escaped then escaped ++ ['\\'] else escaped

/-- A backslash in front of a bracket is dropped. -/
def openBrackets : List Char → List Char
  | [] => []
  | '\\' :: '[' :: cs => '[' :: openBrackets cs
  | c :: cs => c :: openBrackets cs

/-- A control character that is not shown. -/
def isUnshown (c : Char) : Bool := c.toNat = 7 || c.toNat = 8 || (11 ≤ c.toNat && c.toNat ≤ 13)

/-- A stretch of text between tags as it is shown. -/
def shown (s : List Char) : List Char :=
  (withPictographs (openBrackets s)).filter fun c => !isUnshown c

/-- The text of a tag with backslashes in front: an odd number of them makes it text. -/
def tagText (slashes : Nat) (name : List Char) : List Char :=
  List.replicate (slashes / 2) '\\' ++ (if slashes % 2 = 1 then shown (bracketed name) else [])

/-- The text of parts that come after a stretch of text, which is given backwards. -/
def textAfter : (stretch : List Char) → List Piece → List Char
  | stretch, [] => shown stretch.reverse
  | stretch, .char c :: ps => textAfter (c :: stretch) ps
  | stretch, .tag slashes name :: ps =>
    shown stretch.reverse ++ tagText slashes name ++ textAfter [] ps

/-- The text of markup. -/
def plain (markup : List Char) : List Char := textAfter [] (pieces markup)

/-! ### Balance -/

/-- The style that a tag names, whatever its letter case and the value after an equals sign. -/
def styleName (name : List Char) : List Char := Text.lower (Text.trim (name.takeWhile (· ≠ '=')))

/-- Whether every closing tag closes a style; `opened` are the styles that are open, the last one
first.  A closing tag without a name closes the last one. -/
def closesOpened : (opened : List (List Char)) → List Piece → Bool
  | _, [] => true
  | opened, .char _ :: ps => closesOpened opened ps
  | opened, .tag slashes name :: ps =>
    if slashes % 2 = 1 then closesOpened opened ps
    else
      match name with
      | '/' :: closed =>
        match styleName closed, opened with
        | [], [] => false
        | [], _ :: opened => closesOpened opened ps
        | style, opened => opened.contains style && closesOpened (opened.erase style) ps
      | name => closesOpened (styleName name :: opened) ps

/-- Whether every closing tag of markup closes a style; a style may be left open. -/
def isBalanced (markup : List Char) : Bool := closesOpened [] (pieces markup)

/-- Text in a style. -/
def styled (style : String) (s : List Char) : List Char :=
  bracketed style.toList ++ escape s ++ bracketed ('/' :: style.toList)

end TaskQuery.Terminal
