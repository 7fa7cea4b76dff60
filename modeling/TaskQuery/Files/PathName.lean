import TaskQuery.Text.Blank

/-!
# Path names

A path is the slashes in front of it and its components.  Empty components and single dots name
nothing and are dropped when a path is read.  A relative path becomes absolute against a folder, a
tilde stands for the home folder, and two dots take back the component before them.
-/

namespace TaskQuery

/-- A path. -/
structure PathName where
  /-- The slashes in front: none for a relative path, one or two for an absolute one. -/
  slashes : Nat
  /-- The components, none of them empty or a single dot. -/
  parts : List String
  deriving DecidableEq, Repr

/-- Why a path leads nowhere. -/
inductive PathError where
  /-- The tilde names the home of somebody else. -/
  | foreignHome
  /-- A path holds no NUL. -/
  | nul
  /-- A name, or the whole path, is longer than a file system takes. -/
  | tooLong
  deriving DecidableEq, Repr

namespace PathName

/-- The slashes that count: two are kept, more of them are one. -/
def leadingSlashes (s : List Char) : Nat :=
  match (s.takeWhile (· = '/')).length with
  | 0 => 0
  | 2 => 2
  | _ => 1

/-- The components between slashes. -/
def components (s : List Char) : List String :=
  ((Text.splitOn ['/'] s).map String.ofList).filter fun c => c ≠ "" && c ≠ "."

/-- No path holds a NUL. -/
def hasNul (s : String) : Bool := s.toList.contains '\x00'

/-- The path that a text writes. -/
def ofText (s : String) : PathName := ⟨leadingSlashes s.toList, components s.toList⟩

/-- The components with a slash between neighbours. -/
def joined (parts : List String) : List Char := Text.join ['/'] (parts.map String.toList)

/-- The text of a path; a path without slashes and components is a dot. -/
def text (p : PathName) : String :=
  if p.slashes = 0 && p.parts.isEmpty then "."
  else String.ofList (List.replicate p.slashes '/' ++ joined p.parts)

/-- Whether a file system takes a name: it has at most 255 bytes. -/
def takesName (part : String) : Bool := part.utf8ByteSize ≤ 255

/-- Whether a file system takes the length of a path: it has at most 4095 bytes. -/
def takesLength (p : PathName) : Bool := p.text.utf8ByteSize ≤ 4095

/-- A path behind another one. -/
def append (p : PathName) (more : List String) : PathName := ⟨p.slashes, p.parts ++ more⟩

/-- The folder that a path lies in. -/
def parent (p : PathName) : PathName := ⟨p.slashes, p.parts.dropLast⟩

/-- A path with a tilde in front, which stands for the home folder. -/
def expandHome (home p : PathName) : Except PathError PathName :=
  match p.slashes, p.parts with
  | 0, first :: rest =>
    if first = "~" then .ok (home.append rest)
    else if first.toList.head? = some '~' then .error .foreignHome
    else .ok p
  | _, _ => .ok p

/-- One step from a folder that is given by its components. -/
def step (here : List String) (part : String) : List String :=
  if part = ".." then here.dropLast else here ++ [part]

/-- A path with one slash in front and without double dots; a relative path starts in `folder`. -/
def absolute (folder p : PathName) : Except PathError PathName :=
  if p.parts.any hasNul then .error .nul
  else .ok ⟨1, ((if p.slashes = 0 then folder.parts else []) ++ p.parts).foldl step []⟩

end PathName

end TaskQuery
