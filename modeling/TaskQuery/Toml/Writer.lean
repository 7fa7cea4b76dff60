import TaskQuery.Number.Shortest
import TaskQuery.Text.Blank
import TaskQuery.Text.Printable
import TaskQuery.Toml.Lexical
import TaskQuery.Value.Basic

/-!
# Writing TOML

A document is written as its plain entries and then a section for each table, with a blank line
between sections.  Lists have one element a line.  Strings are basic strings; quotes, backslashes
and control characters are escaped, the tab apart.
-/

namespace TaskQuery.Toml

/-- A character inside a basic string. -/
def escape (c : Char) : List Char :=
  if c = '"' then ['\\', '"']
  else if c = '\\' then ['\\', '\\']
  else if c = '\n' then ['\\', 'n']
  else if c = '\r' then ['\\', 'r']
  else if c = '\x08' then ['\\', 'b']
  else if c = '\x0c' then ['\\', 'f']
  else if isIllegal c then '\\' :: 'u' :: Text.hex 4 c.toNat
  else [c]

/-- A string. -/
def writeString (s : List Char) : List Char := '"' :: s.flatMap escape ++ ['"']

/-- A key, bare where that is possible. -/
def writeKey (key : List Char) : List Char :=
  if !key.isEmpty && key.all isBareKeyChar then key else writeString key

/-- The start of a line that stands `level` deep. -/
def indent (level : Nat) : List Char := List.replicate (4 * level) ' '

mutual

/-- A value that stands `level` deep.  The absent value has no spelling. -/
def writeValue (level : Nat) : Value → List Char
  | .null => []
  | .bool b => (if b then "true" else "false").toList
  | .text s => writeString s.toList
  | .list [] => ['[', ']']
  | .list (v :: vs) =>
    '[' :: '\n' :: (writeElements (level + 1) (v :: vs) ++ indent level ++ [']'])
  | .object entries => '\x7b' :: Text.join [','] (writeInline level entries) ++ ['\x7d']
  | .int n => Text.signedDecimal n
  | .float x => x.text
  | .stamp s => s.textWith ' '
  | .time t => t.text

/-- The elements of a list, a line each. -/
def writeElements (level : Nat) : List Value → List Char
  | [] => []
  | v :: vs => indent level ++ writeValue level v ++ ',' :: '\n' :: writeElements level vs

/-- The entries of a table inside a value. -/
def writeInline (level : Nat) : Entries → List (List Char)
  | [] => []
  | (k, v) :: rest =>
    (' ' :: writeKey k.toList ++ ' ' :: '=' :: ' ' :: writeValue level v) :: writeInline level rest

end

/-- Entries, each from a line of its own on. -/
def writeEntries (entries : Entries) : List Char :=
  entries.flatMap fun (k, v) =>
    writeKey k.toList ++ ' ' :: '=' :: ' ' :: writeValue 0 v ++ ['\n']

/-- A section with its heading. -/
def writeSection (name : String) (entries : Entries) : List Char :=
  '[' :: writeKey name.toList ++ ']' :: '\n' :: writeEntries entries

/-- The entries of a table. -/
def table? : String × Value → Option (String × Entries)
  | (name, .object entries) => some (name, entries)
  | _ => none

/-- A document. -/
def write (document : Entries) : String :=
  let plain := document.filter fun e => (table? e).isNone
  let sections := (document.filterMap table?).map fun (name, entries) => writeSection name entries
  let blocks := if plain.isEmpty then sections else writeEntries plain :: sections
  String.ofList (Text.join ['\n'] blocks)

end TaskQuery.Toml
