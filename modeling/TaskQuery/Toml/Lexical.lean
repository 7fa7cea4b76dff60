import TaskQuery.Number.Reader
import TaskQuery.Text.Reading
import TaskQuery.Value.Basic

/-!
# The lexical parts of TOML

Blanks, comments, keys, strings, dates and numbers.  A comment or string may hold no control
character but a tab, and a multi-line string line feeds besides.  Fractions of a second and
offsets from UTC are read and left out of the value.
-/

namespace TaskQuery.Toml

/-- A control character that comments and strings may not hold. -/
def isIllegal (c : Char) : Bool := (c.toNat < 0x20 && c ≠ '\t') || c.toNat = 0x7f

/-- Drop the blanks of a line. -/
def skipBlank (s : List Char) : List Char := s.dropWhile fun c => c = ' ' || c = '\t'

/-- Drop a comment, up to the line feed that ends it. -/
def skipComment : List Char → Option (List Char)
  | '#' :: cs =>
    if (cs.takeWhile (· ≠ '\n')).any isIllegal then none else some (cs.dropWhile (· ≠ '\n'))
  | s => some s

/-- Drop blanks, line feeds and comments. -/
def skipLines : (inComment : Bool) → List Char → Option (List Char)
  | _, [] => some []
  | true, c :: cs =>
    if c = '\n' then skipLines false cs else if isIllegal c then none else skipLines true cs
  | false, c :: cs =>
    if c = ' ' || c = '\t' || c = '\n' then skipLines false cs
    else if c = '#' then skipLines true cs
    else some (c :: cs)

/-! ## Strings -/

/-- The character that a backslash and a letter stand for. -/
def escaped? : Char → Option Char
  | 'b' => some '\x08'
  | 't' => some '\t'
  | 'n' => some '\n'
  | 'f' => some '\x0c'
  | 'r' => some '\r'
  | '"' => some '"'
  | '\\' => some '\\'
  | _ => none

/-- The character with a code in hexadecimal digits. -/
def coded? (digits : List Char) : Option Char := do
  let n ← Text.hexNumber? digits
  if n < 0xd800 || (0xe000 ≤ n && n < 0x110000) then some (Char.ofNat n) else none

/-- A string in double quotes on one line, after its opening quote. -/
def basicString : List Char → Option (List Char × List Char)
  | [] => none
  | '"' :: cs => some ([], cs)
  | '\\' :: 'u' :: a :: b :: c :: d :: cs => do
    let e ← coded? [a, b, c, d]
    let (more, rest) ← basicString cs
    return (e :: more, rest)
  | '\\' :: 'U' :: a :: b :: c :: d :: e :: f :: g :: h :: cs => do
    let x ← coded? [a, b, c, d, e, f, g, h]
    let (more, rest) ← basicString cs
    return (x :: more, rest)
  | '\\' :: c :: cs => do
    let e ← escaped? c
    let (more, rest) ← basicString cs
    return (e :: more, rest)
  | c :: cs =>
    if isIllegal c || c = '\\' then none
    else (basicString cs).map fun (more, rest) => (c :: more, rest)

/-- A string in single quotes on one line, after its opening quote. -/
def literalString : List Char → Option (List Char × List Char)
  | [] => none
  | c :: cs =>
    if c = '\'' then some ([], cs)
    else if isIllegal c then none
    else (literalString cs).map fun (more, rest) => (c :: more, rest)

/-- What a backslash at the end of a line takes away. -/
inductive LineJoin where
  /-- Nothing: no such backslash was met. -/
  | none
  /-- The blanks up to the end of the line, which has to come. -/
  | toLineEnd
  /-- All blanks and line feeds. -/
  | blanks
  deriving DecidableEq

/-- A multi-line string in double quotes, after its opening quotes. -/
def basicLines : LineJoin → List Char → Option (List Char × List Char)
  | _, [] => none
  | .toLineEnd, c :: cs =>
    if c = ' ' || c = '\t' then basicLines .toLineEnd cs
    else if c = '\n' then basicLines .blanks cs
    else none
  | _, '"' :: '"' :: '"' :: cs => some ([], cs)
  | _, '\\' :: 'u' :: a :: b :: c :: d :: cs => do
    let e ← coded? [a, b, c, d]
    let (more, rest) ← basicLines .none cs
    return (e :: more, rest)
  | _, '\\' :: 'U' :: a :: b :: c :: d :: e :: f :: g :: h :: cs => do
    let x ← coded? [a, b, c, d, e, f, g, h]
    let (more, rest) ← basicLines .none cs
    return (x :: more, rest)
  | _, '\\' :: c :: cs =>
    if c = '\n' then basicLines .blanks cs
    else if c = ' ' || c = '\t' then basicLines .toLineEnd cs
    else do
      let e ← escaped? c
      let (more, rest) ← basicLines .none cs
      return (e :: more, rest)
  | join, c :: cs =>
    if join = .blanks && (c = ' ' || c = '\t' || c = '\n') then basicLines .blanks cs
    else if (isIllegal c && c ≠ '\n') || c = '\\' then none
    else (basicLines .none cs).map fun (more, rest) => (c :: more, rest)

/-- A multi-line string in single quotes, after its opening quotes. -/
def literalLines : List Char → Option (List Char × List Char)
  | [] => none
  | '\'' :: '\'' :: '\'' :: cs => some ([], cs)
  | c :: cs =>
    if isIllegal c && c ≠ '\n' then none
    else (literalLines cs).map fun (more, rest) => (c :: more, rest)

/-- Up to two quotes right after the closing ones belong to a multi-line string. -/
def withTrailingQuotes (quote : Char) : List Char × List Char → List Char × List Char
  | (text, c :: d :: rest) =>
    if c = quote then if d = quote then (text ++ [c, d], rest) else (text ++ [c], d :: rest)
    else (text, c :: d :: rest)
  | (text, [c]) => if c = quote then (text ++ [c], []) else (text, [c])
  | r => r

/-- A line feed right after the opening quotes is left out. -/
def dropFirstLineFeed : List Char → List Char
  | '\n' :: cs => cs
  | cs => cs

/-- A string of any kind. -/
def string? : List Char → Option (List Char × List Char)
  | '"' :: '"' :: '"' :: cs =>
    (basicLines .none (dropFirstLineFeed cs)).map (withTrailingQuotes '"')
  | '"' :: cs => basicString cs
  | '\'' :: '\'' :: '\'' :: cs =>
    (literalLines (dropFirstLineFeed cs)).map (withTrailingQuotes '\'')
  | '\'' :: cs => literalString cs
  | _ => none

/-! ## Keys -/

/-- A character of a bare key. -/
def isBareKeyChar (c : Char) : Bool := c.isAlphanum || c = '-' || c = '_'

/-- One part of a key. -/
def keyPart? : List Char → Option (String × List Char)
  | '"' :: cs => (basicString cs).map fun (k, rest) => (String.ofList k, rest)
  | '\'' :: cs => (literalString cs).map fun (k, rest) => (String.ofList k, rest)
  | s =>
    let bare := s.takeWhile isBareKeyChar
    if bare.isEmpty then none else some (String.ofList bare, s.dropWhile isBareKeyChar)

/-- The parts of a key with dots between them, and the text after the blanks that follow. -/
def key (s : List Char) : Except ReadFault (Reading (List String) s.length) := do
  let first ← Reading.ofOption s.length (keyPart? s)
  have := first.shorter
  match _h : skipBlank first.rest with
  | '.' :: rest =>
    have hr := (List.dropWhile_suffix (l := first.rest) fun c => c = ' ' || c = '\t').length_le
    have : (skipBlank rest).length ≤ rest.length := (List.dropWhile_suffix _).length_le
    have : rest.length < s.length := by
      change (skipBlank first.rest).length ≤ _ at hr
      rw [_h] at hr
      simp at hr
      omega
    let more ← key (skipBlank rest)
    return more.as (first.value :: more.value) (by omega)
  | rest => Reading.leaving s.length [first.value] rest
termination_by s.length

/-! ## Dates and numbers -/

/-- Two ASCII digits up to a limit. -/
def twoDigits? (limit : Nat) : List Char → Option (Nat × List Char)
  | a :: b :: cs =>
    if a.isDigit && b.isDigit then
      let n := Binary64.digitsValue [a, b]
      if n ≤ limit then some (n, cs) else none
    else none
  | _ => none

/-- Two digits after a separator. -/
def separated? (separator : Char) (limit : Nat) : List Char → Option (Nat × List Char)
  | c :: cs => if c = separator then twoDigits? limit cs else none
  | [] => none

/-- The fraction of a second, left out when it has no digit. -/
def skipFraction : List Char → List Char
  | '.' :: cs => if cs.head?.any Char.isDigit then cs.dropWhile Char.isDigit else '.' :: cs
  | s => s

/-- A time of day. -/
def time? (s : List Char) : Option (TimeOfDay × List Char) := do
  let (hour, s) ← twoDigits? 23 s
  let (minute, s) ← separated? ':' 59 s
  let (second, s) ← separated? ':' 59 s
  return (⟨hour, minute, second⟩, skipFraction s)

/-- The offset of a time, left out when it is none. -/
def skipOffset (s : List Char) : List Char :=
  match s with
  | c :: cs =>
    if c = 'Z' || c = 'z' then cs
    else if c = '+' || c = '-' then
      match (twoDigits? 23 cs).bind fun (_, r) => separated? ':' 59 r with
      | some (_, rest) => rest
      | none => s
    else s
  | [] => []

/-- The parts of a date. -/
def dateParts? (s : List Char) : Option (Nat × Nat × Nat × List Char) := do
  let (century, s) ← twoDigits? 99 s
  let (year, s) ← twoDigits? 99 s
  let (month, s) ← separated? '-' 12 s
  let (day, s) ← separated? '-' 31 s
  return (100 * century + year, month, day, s)

/-- The time of an instant after its date; a day has none. -/
def instant (d : Date) (s : List Char) : Value × List Char :=
  match s with
  | c :: cs =>
    if c = 'T' || c = 't' || c = ' ' then
      match time? cs with
      | some (t, rest) => (.stamp ⟨d, some t⟩, skipOffset rest)
      | none => (.stamp (.day d), s)
    else (.stamp (.day d), s)
  | [] => (.stamp (.day d), s)

/-- Digits of a base with single underscores between them, without the underscores. -/
def digitRun (isDigit : Char → Bool) : List Char → List Char × List Char
  | c :: '_' :: d :: cs =>
    if isDigit c then
      if isDigit d then
        let (more, rest) := digitRun isDigit (d :: cs)
        (c :: more, rest)
      else ([c], '_' :: d :: cs)
    else ([], c :: '_' :: d :: cs)
  | c :: cs =>
    if isDigit c then
      let (more, rest) := digitRun isDigit cs
      (c :: more, rest)
    else ([], c :: cs)
  | [] => ([], [])

/-- The number that digits of a base write. -/
def baseValue (base : Nat) (digits : List Char) : Nat :=
  digits.foldl (fun n c => base * n + (Text.hexValue? c).getD 0) 0

/-- A whole number with a base in front. -/
def basedNumber? : List Char → Option (Nat × List Char)
  | '0' :: mark :: cs =>
    let base := match mark with
      | 'x' => 16
      | 'b' => 2
      | 'o' => 8
      | _ => 0
    let (digits, rest) := digitRun (fun c => (Text.hexValue? c).any (· < base)) cs
    if digits.isEmpty then none else some (baseValue base digits, rest)
  | _ => none

/-- A fraction with its point, or nothing. -/
def fraction (s : List Char) : List Char × List Char :=
  match s with
  | '.' :: cs =>
    let (digits, rest) := digitRun Char.isDigit cs
    if digits.isEmpty then ([], s) else ('.' :: digits, rest)
  | _ => ([], s)

/-- An exponent with its letter and sign, or nothing. -/
def exponent (s : List Char) : List Char × List Char :=
  match s with
  | e :: cs =>
    if e = 'e' || e = 'E' then
      let sign := match cs with
        | '+' :: _ => ['+']
        | '-' :: _ => ['-']
        | _ => []
      let (digits, rest) := digitRun Char.isDigit (cs.drop sign.length)
      if digits.isEmpty then ([], s) else (e :: sign ++ digits, rest)
    else ([], s)
  | [] => ([], s)

/-- The whole digits of a decimal number: a zero on its own, or digits without one first. -/
def wholeDigits : List Char → List Char × List Char
  | '0' :: cs => (['0'], cs)
  | s => digitRun Char.isDigit s

/-- A decimal number, or one of the values with a name. -/
def decimal (s : List Char) : Except ReadFault (Value × List Char) :=
  let (negative, body) := Binary64.signed s
  let (whole, rest) := wholeDigits body
  let (part, rest) := fraction rest
  let (power, rest) := exponent rest
  if whole.isEmpty then
    if "inf".toList.isPrefixOf body then .ok (.float (.infinite negative), body.drop 3)
    else if "nan".toList.isPrefixOf body then .ok (.float .nan, body.drop 3)
    else .error .malformed
  else if part.isEmpty && power.isEmpty then
    if whole.length > Text.maxNumberDigits then .error .hugeNumber
    else
      let n : Int := Binary64.digitsValue whole
      .ok (.int (if negative then -n else n), rest)
  else
    match Binary64.unsigned? negative (whole ++ part ++ power) with
    | some x => .ok (.float x, rest)
    | none => .error .malformed

/-- A truth value, a date, a time or a number. -/
def scalar (s : List Char) : Except ReadFault (Value × List Char) :=
  if "true".toList.isPrefixOf s then .ok (.bool true, s.drop 4)
  else if "false".toList.isPrefixOf s then .ok (.bool false, s.drop 5)
  else
    match dateParts? s with
    | some (year, month, day, rest) =>
      match Date.ofParts? year month day with
      | some d => .ok (instant d rest)
      | none => .error .malformed
    | none =>
      match time? s with
      | some (t, rest) => .ok (.time t, rest)
      | none =>
        match basedNumber? s with
        | some (n, rest) => .ok (.int n, rest)
        | none => decimal s

end TaskQuery.Toml
