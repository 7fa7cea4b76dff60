import TaskQuery.Text.CaseTables
import TaskQuery.Text.Sigma

/-!
# Letter case

Lower and upper case of texts by the full mappings, and equality of characters without regard to
case, which compares single characters.  For ASCII all three are the usual shifts by 32.
-/

namespace TaskQuery.Text

/-- The first rule that moves the code point decides; without one it stays. -/
def applyRules (rules : List CaseRule) (n : Nat) : Nat :=
  (rules.findSome? fun r => r.apply? n).getD n

/-- The lower-case mapping of a character, the final form of sigma apart. -/
def lowerChar (c : Char) : List Char :=
  if c.toNat < 128 then [c.toLower]
  else if c = 'İ' then ['i', '\u0307']
  else [Char.ofNat (applyRules lowerRules c.toNat)]

/-- The upper-case mapping of a character. -/
def upperChar (c : Char) : List Char :=
  if c.toNat < 128 then [c.toUpper]
  else
    match upperExpansions.lookup c.toNat with
    | some ns => ns.map Char.ofNat
    | none => [Char.ofNat (applyRules upperRules c.toNat)]

/-- Lower case of a text that stands after `before`, whose nearest character comes first. -/
def lowerAfter : (before : List Char) → List Char → List Char
  | _, [] => []
  | before, c :: cs =>
    (if c = 'Σ' then [if isFinalSigma before cs then 'ς' else 'σ'] else lowerChar c) ++
      lowerAfter (c :: before) cs

/-- Lower case of a text. -/
def lower (s : List Char) : List Char := lowerAfter [] s

/-- Upper case of a text. -/
def upper (s : List Char) : List Char := s.flatMap upperChar

/-- Lower case of a string. -/
def lowerString (s : String) : String := String.ofList (lower s.toList)

/-- Upper case of a string. -/
def upperString (s : String) : String := String.ofList (upper s.toList)

/-- The lower-case form of one character as one character. -/
def lowerLetter (c : Char) : Char := (lowerChar c).headD c

/-- A letter that has another case. -/
def hasCase (c : Char) : Bool := lowerLetter c != c || (upperChar c).headD c != c

/-- Whether `d` is matched by `c` without regard to case: a letter without case matches itself
only, a letter with case every letter of its lower-case form or of a further spelling of it. -/
def equalsIgnoringCase (c d : Char) : Bool :=
  if hasCase c then
    let letter := (lowerLetter c).toNat
    let target := (lowerLetter d).toNat
    target == letter || ((caseVariants.lookup letter).getD []).contains target
  else c == d

end TaskQuery.Text
