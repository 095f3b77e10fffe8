import MarkdownTidy.Host
import MarkdownTidy.Path

/-! A tree of files held in memory, and commands run on it. -/

namespace MarkdownTidy

inductive FileEntry where
  | file (content : Bytes)
  | directory
  deriving DecidableEq, Repr, Inhabited

/-- The entries of a tree by their names from the root, the latest first, and the working
directory. The root is a directory. -/
structure FileTree where
  entries : List (List Bytes × FileEntry) := []
  workingDirectory : List Bytes := []
  deriving Repr, Inhabited

namespace FileTree

def get? (t : FileTree) (place : List Bytes) : Option FileEntry :=
  if place.isEmpty then some .directory else t.entries.lookup place

def put (t : FileTree) (place : List Bytes) (e : FileEntry) : FileTree :=
  { t with entries := (place, e) :: t.entries.filter (·.1 != place) }

def grow (t : FileTree) (place : List Bytes) (e : FileEntry) : FileTree :=
  let above := (List.range place.length).map place.take
  let addMissing (t : FileTree) (p : List Bytes) : FileTree :=
    if (t.get? p).isNone then t.put p .directory else t
  (above.foldl addMissing t).put place e

def files (t : FileTree) : List (List Bytes × Bytes) :=
  t.entries.filterMap fun
    | (p, .file content) => some (p, content)
    | (_, .directory) => none

/-- One name further from a place in the tree. Only directories have names in them. -/
def enter (t : FileTree) (place : List Bytes) (name : Bytes) : Except FileCause (List Bytes) :=
  match t.get? place with
  | none => .error .missing
  | some (.file _) => .error .notDirectory
  | some .directory =>
    if name == Path.dot || name == Path.dotDot then .ok (Path.enter place name)
    else if name.length > 255 then .error .nameTooLong
    else if (t.get? (place ++ [name])).isNone then .error .missing
    else .ok (place ++ [name])

def start (t : FileTree) (path : Bytes) : List Bytes :=
  if Path.isAbsolute path then [] else t.workingDirectory

def checkPath (path : Bytes) : Except FileCause Unit :=
  if path.contains 0 then .error .invalidName
  else if path.isEmpty then .error .missing
  else if path.length ≥ 4096 then .error .nameTooLong
  else .ok ()

def find (t : FileTree) (path : Bytes) : Except FileCause (List Bytes) := do
  checkPath path
  let names := Path.names path
  let names := if Bytes.endsWith path [Path.slash] then names ++ [Path.dot] else names
  names.foldlM t.enter (t.start path)

def findForWriting (t : FileTree) (path : Bytes) : Except FileCause (List Bytes) := do
  checkPath path
  let names := Path.names path
  let above ← names.dropLast.foldlM t.enter (t.start path)
  match t.get? above, names.getLast? with
  | none, _ => .error .missing
  | some (.file _), _ => .error .notDirectory
  | some .directory, none => .error .isDirectory
  | some .directory, some name =>
    if name == Path.dot || name == Path.dotDot || Bytes.endsWith path [Path.slash] then
      .error .isDirectory
    else if name.length > 255 then .error .nameTooLong
    else if t.get? (above ++ [name]) == some .directory then .error .isDirectory
    else .ok (above ++ [name])

def readFile (t : FileTree) (path : Bytes) : Except FileError Bytes :=
  match t.find path with
  | .error cause => .error ⟨.opening, path, cause⟩
  | .ok place =>
    match t.get? place with
    | some (.file content) => .ok content
    | some .directory => .error ⟨.reading, path, .isDirectory⟩
    | none => .error ⟨.opening, path, .missing⟩

def isFile (t : FileTree) (path : Bytes) : Bool := (t.readFile path).isOk

def writeFile (t : FileTree) (path content : Bytes) : Except FileError FileTree :=
  match t.findForWriting path with
  | .error cause => .error ⟨.opening, path, cause⟩
  | .ok place => .ok (t.put place (.file content))

/-- A tree as the host of a command with the given standard input. -/
def host (input : Bytes) : Host (StateM FileTree) where
  workingDirectory := return Path.ofNames (← get).workingDirectory
  standardInput := return input
  isFile path := return (← get).isFile path
  readFile path := return (← get).readFile path
  writeFile path content := do
    match (← get).writeFile path content with
    | .ok t => set t; return .ok ()
    | .error e => return .error e

end FileTree

end MarkdownTidy
