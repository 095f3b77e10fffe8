import MarkdownTidy.Config.Reader
import MarkdownTidy.Host
import MarkdownTidy.Path

/-! Finding the configuration of a document: the nearest configuration file at or above its
directory. -/

namespace MarkdownTidy.Config

def fileNames : List Bytes := [utf8 ".tidymd.yaml", utf8 ".tidymd.yml"]

inductive LoadError where
  | file (e : FileError)
  | content (path : Bytes) (e : ReadError)
  deriving DecidableEq, Repr

def LoadError.message : LoadError → Bytes
  | file e => e.message
  | content path e => path ++ utf8 ": " ++ e.message

variable {m : Type → Type} [Monad m]

def firstFile? (host : Host m) : List Bytes → m (Option Bytes)
  | [] => return none
  | path :: paths => do
    if ← host.isFile path then return some path else firstFile? host paths

def nearest? (host : Host m) : List Bytes → m (Option Bytes)
  | [] => firstFile? host (fileNames.map fun f => Path.ofNames [f])
  | d :: above => do
    match ← firstFile? host (fileNames.map fun f => Path.ofNames ((d :: above).reverse ++ [f])) with
    | some path => return some path
    | none => nearest? host above

def locate? (host : Host m) (document : Bytes) : m (Option Bytes) := do
  let directory := Path.resolve (← host.workingDirectory) (Path.parent document)
  nearest? host directory.reverse

def load (host : Host m) (path : Bytes) : m (Except LoadError Config) := do
  match ← host.readFile path with
  | .error e => return .error (.file e)
  | .ok data => return (read data).mapError (.content path)

def forDocument (host : Host m) (document : Bytes) : m (Except LoadError Config) := do
  match ← locate? host document with
  | none => return .ok {}
  | some path => load host path

end MarkdownTidy.Config
