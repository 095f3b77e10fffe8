import MarkdownTidy.Bytes

/-! Paths, read as text alone: nothing here asks whether a file exists. -/

namespace MarkdownTidy.Path

def slash : UInt8 := byte '/'

def dot : Bytes := utf8 "."

def dotDot : Bytes := utf8 ".."

def isAbsolute (path : Bytes) : Bool := path.head? == some slash

def names (path : Bytes) : List Bytes := (Bytes.split slash path).filter (!·.isEmpty)

def enter (place : List Bytes) (name : Bytes) : List Bytes :=
  if name == dot then place
  else if name == dotDot then place.dropLast
  else place ++ [name]

def resolve (workingDirectory path : Bytes) : List Bytes :=
  let start := if isAbsolute path then [] else names workingDirectory
  (start ++ names path).foldl enter []

def parent (path : Bytes) : Bytes :=
  match Bytes.lastIndexOf? slash path with
  | some i => path.take (i + 1)
  | none => []

def ofNames (place : List Bytes) : Bytes := slash :: Bytes.join [slash] place

end MarkdownTidy.Path
