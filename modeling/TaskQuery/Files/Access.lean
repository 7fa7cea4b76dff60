import TaskQuery.Files.PathName

/-!
# Access to files

A computation that looks at files and writes files is a value: it is done, or it looks at a path
and goes on with what is there, or it writes a file and goes on with how that went.  The same
computation runs on the files of a machine and on a `FileTree` held in memory.
-/

namespace TaskQuery

/-- What is under a path. -/
inductive FileState where
  /-- Nothing. -/
  | missing
  /-- A folder; reading it as a file is refused for the given reason. -/
  | folder (refusal : String)
  /-- Something that cannot be got at, for the given reason. -/
  | barred (refusal : String)
  /-- A path that is too long to be looked up; reading there is refused for the given reason. -/
  | tooLong (refusal : String)
  /-- A file. -/
  | file (content : ByteArray)

/-- Whether something is there; a path that is too long cannot be asked for. -/
def FileState.isThere : FileState → Except PathError Bool
  | folder _ | file _ => .ok true
  | missing | barred _ => .ok false
  | tooLong _ => .error .tooLong

/-- A folder is there. -/
def FileState.isFolder : FileState → Bool
  | folder _ => true
  | _ => false

/-- A computation that may look at files and write files. -/
inductive Access (α : Type) where
  /-- The computation is done. -/
  | done (result : α)
  /-- Look at a path, and go on with what is there. -/
  | look (path : PathName) (next : FileState → Access α)
  /-- Write a file and the folders above it, and go on; a refusal comes with its reason. -/
  | write (path : PathName) (content : String) (next : Option String → Access α)

namespace Access

/-- Go on with the result of a computation. -/
def andThen {α β : Type} (a : Access α) (f : α → Access β) : Access β :=
  match a with
  | done r => f r
  | look path next => look path fun s => (next s).andThen f
  | write path content next => write path content fun r => (next r).andThen f

/-- Accesses one after the other: the second depends on the answers to the first. -/
instance : Monad Access where
  pure := done
  bind := andThen

end Access

/-- Files held in memory.  Folders and files are known by the components of their paths. -/
structure FileTree where
  /-- The folder that relative paths start in. -/
  current : List String
  /-- The folders, the root apart. -/
  folders : List (List String)
  /-- The files with their content. -/
  files : List (List String × ByteArray)
  /-- The reason that is given when an access is refused. -/
  refusal : String

namespace FileTree

/-- What is under an absolute path without double dots. -/
def entryAt (t : FileTree) (place : List String) : FileState :=
  match t.files.lookup place with
  | some content => .file content
  | none => if place.isEmpty || t.folders.contains place then .folder t.refusal else .missing

/-- Where a walk of steps ends; it passes through folders only. -/
def walk (t : FileTree) (here : List String) : List String → Except FileState (List String)
  | [] => .ok here
  | part :: rest =>
    match t.entryAt here with
    | .folder _ =>
      if PathName.takesName part then t.walk (PathName.step here part) rest
      else .error (.tooLong t.refusal)
    | .file _ => .error (.barred t.refusal)
    | s => .error s

/-- Where a path leads. -/
def place (t : FileTree) (p : PathName) : Except FileState (List String) :=
  t.walk (if p.slashes = 0 then t.current else []) p.parts

/-- What is under a path. -/
def stateOf (t : FileTree) (p : PathName) : FileState :=
  if !p.takesLength then .tooLong t.refusal
  else
    match t.place p with
    | .ok place => t.entryAt place
    | .error s => s

/-- The folders above a place. -/
def above (place : List String) : List (List String) := ((List.range place.length).drop 1).map place.take

/-- Whether a file can be put at a place: nothing else takes the place or a folder above it, and
no name is too long. -/
def takesFile (t : FileTree) (place : List String) : Bool :=
  !(t.entryAt place).isFolder && place.all PathName.takesName &&
    (above place).all fun a => (t.files.lookup a).isNone

/-- The tree with a file at an absolute path without double dots, where it takes one. -/
def put? (t : FileTree) (place : List String) (content : ByteArray) : Option FileTree :=
  if !t.takesFile place then none
  else some { t with
    folders := t.folders ++ (above place).filter fun a => !t.folders.contains a
    files := (place, content) :: t.files.filter fun f => f.1 ≠ place }

end FileTree

/-- Run a computation on files held in memory. -/
def Access.run {α : Type} : Access α → FileTree → α × FileTree
  | .done r, t => (r, t)
  | .look path next, t => (next (t.stateOf path)).run t
  | .write path content next, t =>
    match t.put? path.parts content.toUTF8 with
    | some t' => (next none).run t'
    | none => (next (some t.refusal)).run t

end TaskQuery
