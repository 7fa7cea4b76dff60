import TaskQuery.Value.Basic

/-!
# TOML documents under construction

A document is built statement by statement.  Three sets of key paths say what may still be added
where: a *closed* path was given an inline table or array and takes nothing more, an *opened* one
was opened as a table and may not be opened again, and the paths that a dotted key passes through
become opened when the next table begins.
-/

namespace TaskQuery.Toml

/-- A path of keys from the root. -/
abbrev Path := List String

namespace Table

/-- Change the table at a path, made when it is missing; in a list of tables the last one counts
if `intoLists`.  Fails where something else than a table stands on the path. -/
def update (intoLists : Bool) (change : Entries → Option Entries) :
    Path → Entries → Option Entries
  | [], table => change table
  | k :: path, table =>
    match Entries.get? table k with
    | none => (update intoLists change path []).map fun t => Entries.put table k (.object t)
    | some (.object t) => (update intoLists change path t).map fun t => Entries.put table k (.object t)
    | some (.list vs) =>
      if intoLists then
        match vs.getLast? with
        | some (.object t) =>
          (update intoLists change path t).map fun t =>
            Entries.put table k (.list (vs.dropLast ++ [Value.object t]))
        | _ => none
      else none
    | some _ => none

/-- Add a value under a key that is not there yet. -/
def addNew (key : String) (value : Value) (table : Entries) : Option Entries :=
  match Entries.get? table key with
  | none => some (Entries.put table key value)
  | some _ => none

/-- Add an empty table to the list of tables under a key. -/
def addTable (key : String) (table : Entries) : Option Entries :=
  match Entries.get? table key with
  | none => some (Entries.put table key (.list [.object []]))
  | some (.list vs) => some (Entries.put table key (.list (vs ++ [.object []])))
  | some _ => none

end Table

/-- Whether a path or a path that leads to it is in a set. -/
def covers (paths : List Path) (path : Path) : Bool :=
  paths.any fun p => p ≠ [] && p.isPrefixOf path

/-- Whether a value is a table or an array. -/
def isContainer : Value → Bool
  | .object _ | .list _ => true
  | _ => false

/-- The paths that a dotted key passes through, below a header. -/
def passed (header key : Path) : List Path :=
  (List.range' 1 (key.length - 1)).map fun n => header ++ key.take n

/-- A document under construction. -/
structure Document where
  /-- What has been read. -/
  root : Entries := []
  /-- The path of the table that is being filled. -/
  header : Path := []
  /-- The paths that take nothing more. -/
  closed : List Path := []
  /-- The paths that may not be opened again. -/
  opened : List Path := []
  /-- The paths that will be opened when the next table begins. -/
  pending : List Path := []

namespace Document

/-- Begin a new table: what was pending is opened now. -/
def settle (d : Document) : Document := { d with opened := d.pending ++ d.opened, pending := [] }

/-- Open the table at a path. -/
def openTable (d : Document) (path : Path) : Option Document := do
  let d := d.settle
  if d.opened.contains path || covers d.closed path then none
  else
    let root ← Table.update true some path d.root
    return { d with root, header := path, opened := path :: d.opened }

/-- Open a new table in the list of tables at a path; what is said of paths below it is
forgotten. -/
def openListTable (d : Document) (path : Path) : Option Document := do
  let d := d.settle
  if covers d.closed path then none
  else
    let below := fun p : Path => path.isPrefixOf p
    let root ← Table.update true (Table.addTable (path.getLast?.getD "")) path.dropLast d.root
    return { d with root, header := path
                    closed := d.closed.filter (!below ·)
                    opened := path :: d.opened.filter (!below ·) }

/-- Give a dotted key below the header a value. -/
def assign (d : Document) (key : Path) (value : Value) : Option Document := do
  let through := passed d.header key
  let parent := d.header ++ key.dropLast
  if through.any d.opened.contains || covers d.closed parent then none
  else
    let root ← Table.update true (Table.addNew (key.getLast?.getD "") value) parent d.root
    return { d with root, pending := through ++ d.pending
                    closed := if isContainer value then (d.header ++ key) :: d.closed
                      else d.closed }

end Document

/-- An inline table under construction. -/
structure InlineTable where
  /-- What has been read. -/
  entries : Entries := []
  /-- The paths that take nothing more. -/
  closed : List Path := []

/-- Give a dotted key of an inline table a value. -/
def InlineTable.assign (t : InlineTable) (key : Path) (value : Value) : Option InlineTable := do
  if covers t.closed key then none
  else
    let entries ←
      Table.update false (Table.addNew (key.getLast?.getD "") value) key.dropLast t.entries
    return ⟨entries, if isContainer value then key :: t.closed else t.closed⟩

end TaskQuery.Toml
