import TaskQuery.Number.Shortest
import TaskQuery.Text.Blank
import TaskQuery.Text.Printable
import TaskQuery.Value.Basic

/-!
# Writing JSON

Strings are written in ASCII: whatever lies outside is written by its UTF-16 code units.  A value
is written either on one line or with one entry a line, indented by two spaces a level; an empty
list or object stays on its line.  Dates are written as their text.
-/

namespace TaskQuery.Json

/-- The UTF-16 code units of a character. -/
def codeUnits (c : Char) : List Nat :=
  if c.toNat < 0x10000 then [c.toNat]
  else [0xd800 + (c.toNat - 0x10000) / 0x400, 0xdc00 + (c.toNat - 0x10000) % 0x400]

/-- A character inside a string. -/
def escape (c : Char) : List Char :=
  if c = '"' then ['\\', '"']
  else if c = '\\' then ['\\', '\\']
  else if c = '\n' then ['\\', 'n']
  else if c = '\r' then ['\\', 'r']
  else if c = '\t' then ['\\', 't']
  else if c = '\x08' then ['\\', 'b']
  else if c = '\x0c' then ['\\', 'f']
  else if 0x20 ≤ c.toNat && c.toNat < 0x7f then [c]
  else (codeUnits c).flatMap fun u => '\\' :: 'u' :: Text.hex 4 u

/-- A string in double quotes. -/
def quote (s : List Char) : List Char := '"' :: s.flatMap escape ++ ['"']

/-- A floating-point number; the values that are no numbers have names. -/
def float (x : Binary64) : List Char :=
  match x with
  | .nan => "NaN".toList
  | .infinite negative => (if negative then "-Infinity" else "Infinity").toList
  | x => x.text

/-- How the parts of a list or object are set apart. -/
structure Layout where
  /-- Whether each part stands on a line of its own. -/
  lines : Bool

/-- Parts in brackets, `level` deep. -/
def Layout.bracket (layout : Layout) (opening closing : Char) (level : Nat)
    (parts : List (List Char)) : List Char :=
  if parts.isEmpty then [opening, closing]
  else if layout.lines then
    let newline (n : Nat) := '\n' :: List.replicate (2 * n) ' '
    opening :: newline (level + 1) ++ Text.join (',' :: newline (level + 1)) parts ++
      newline level ++ [closing]
  else opening :: Text.join [',', ' '] parts ++ [closing]

mutual

/-- A value that stands `level` deep. -/
def writeAt (layout : Layout) (level : Nat) : Value → List Char
  | .null => "null".toList
  | .bool b => (if b then "true" else "false").toList
  | .int n => Text.signedDecimal n
  | .float x => float x
  | .text s => quote s.toList
  | .stamp s => quote (s.textWith 'T')
  | .time t => quote t.text
  | .list vs => layout.bracket '[' ']' level (writeList layout (level + 1) vs)
  | .object entries => layout.bracket '\x7b' '\x7d' level (writeEntries layout (level + 1) entries)

/-- Each value of a list. -/
def writeList (layout : Layout) (level : Nat) : List Value → List (List Char)
  | [] => []
  | v :: vs => writeAt layout level v :: writeList layout level vs

/-- Each entry of an object. -/
def writeEntries (layout : Layout) (level : Nat) : List (String × Value) → List (List Char)
  | [] => []
  | (k, v) :: rest =>
    (quote k.toList ++ ':' :: ' ' :: writeAt layout level v) :: writeEntries layout level rest

end

/-- A value with one entry a line. -/
def writeLines (v : Value) : String := String.ofList (writeAt ⟨true⟩ 0 v)

end TaskQuery.Json
