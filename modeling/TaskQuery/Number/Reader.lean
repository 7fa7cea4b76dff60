import TaskQuery.Number.Binary64
import TaskQuery.Text.Casing
import TaskQuery.Text.Digit

/-!
# Reading floating-point numbers

The text of a number: an optional sign and then `inf`, `infinity` or `nan` in any letter case, or
digits of any script with an optional point and an optional exponent.  Single underscores may
stand between two digits.
-/

namespace TaskQuery.Binary64

/-- A digit of any script as its ASCII form; everything else stays. -/
def asciiDigit (c : Char) : Char :=
  match Text.digitValue? c with
  | some d => Nat.digitChar d
  | none => c

/-- Leave out the underscores between two digits; none when another underscore is met. -/
def dropUnderscores? : (afterDigit : Bool) → List Char → Option (List Char)
  | _, [] => some []
  | true, '_' :: c :: cs =>
    if c.isDigit then (dropUnderscores? true cs).map (c :: ·) else none
  | _, '_' :: _ => none
  | _, c :: cs => (dropUnderscores? c.isDigit cs).map (c :: ·)

/-- The number that ASCII digits write. -/
def digitsValue (ds : List Char) : Nat := ds.foldl (fun n c => 10 * n + (c.toNat - 48)) 0

/-- The sign in front of a text, as whether it is negative, and the text after it. -/
def signed : List Char → Bool × List Char
  | '-' :: cs => (true, cs)
  | '+' :: cs => (false, cs)
  | cs => (false, cs)

/-- The exponent at the end of a number: nothing, or `e` and a signed number. -/
def exponent? : List Char → Option Int
  | [] => some 0
  | c :: cs =>
    if c = 'e' || c = 'E' then
      let (negative, ds) := signed cs
      if !ds.isEmpty && ds.all Char.isDigit then
        some (if negative then -(digitsValue ds : Int) else digitsValue ds)
      else none
    else none

/-- A fraction after the whole digits: the digits after the point, and what follows them. -/
def fraction : List Char → List Char × List Char
  | '.' :: cs => (cs.takeWhile Char.isDigit, cs.dropWhile Char.isDigit)
  | cs => ([], cs)

/-- An unsigned number in ASCII digits. -/
def unsigned? (negative : Bool) (cs : List Char) : Option Binary64 := do
  let whole := cs.takeWhile Char.isDigit
  let (part, rest) := fraction (cs.dropWhile Char.isDigit)
  if whole.isEmpty && part.isEmpty then none
  else
    let exponent ← exponent? rest
    return ofDecimal negative (digitsValue (whole ++ part)) (exponent - part.length)

/-- Read a number. -/
def ofText? (s : List Char) : Option Binary64 := do
  let plain ← dropUnderscores? false (s.map asciiDigit)
  let (negative, body) := signed plain
  match String.ofList (body.map Char.toLower) with
  | "inf" | "infinity" => some (infinite negative)
  | "nan" => some nan
  | _ => unsigned? negative body

end TaskQuery.Binary64
