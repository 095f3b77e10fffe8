import MarkdownTidy.Bytes

/-! What a command needs of the system it runs on. -/

namespace MarkdownTidy

/-- Why a file could not be read or written. -/
inductive FileCause where
  | missing
  | notDirectory
  | isDirectory
  | nameTooLong
  | invalidName
  | other (text : Bytes)
  deriving DecidableEq, Repr, Inhabited

def FileCause.message : FileCause → Bytes
  | missing => utf8 "no such file or directory"
  | notDirectory => utf8 "not a directory"
  | isDirectory => utf8 "is a directory"
  | nameTooLong => utf8 "file name too long"
  | invalidName => utf8 "invalid argument"
  | other text => text

inductive FileStep where
  | opening
  | reading
  deriving DecidableEq, Repr, Inhabited

def FileStep.verb : FileStep → Bytes
  | opening => utf8 "open"
  | reading => utf8 "read"

/-- A file that could not be opened, or was opened and could not be read. -/
structure FileError where
  step : FileStep
  path : Bytes
  cause : FileCause
  deriving DecidableEq, Repr, Inhabited

def FileError.message (e : FileError) : Bytes :=
  e.step.verb ++ utf8 " " ++ e.path ++ utf8 ": " ++ e.cause.message

/-- The files and the standard input of a command. Paths are taken from the working directory. -/
structure Host (m : Type → Type) where
  workingDirectory : m Bytes
  standardInput : m Bytes
  /-- Whether a path leads to something other than a directory. -/
  isFile : Bytes → m Bool
  readFile : Bytes → m (Except FileError Bytes)
  writeFile : Bytes → Bytes → m (Except FileError Unit)

end MarkdownTidy
