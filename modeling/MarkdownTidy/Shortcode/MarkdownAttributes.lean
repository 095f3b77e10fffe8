import MarkdownTidy.Text.Case

/-! The attribute names whose values hold markdown. -/

namespace MarkdownTidy

/-- A set of attribute names, in lower case and sorted. A spreading set takes in every name it is
asked about; a fixed set never changes by being asked. -/
structure MarkdownAttributes where
  spread : Bool
  names : List Bytes
  deriving DecidableEq, Repr, Inhabited

namespace MarkdownAttributes

def insertName (name : Bytes) : List Bytes → List Bytes
  | [] => [name]
  | n :: ns =>
    if name == n then n :: ns
    else if Bytes.le name n then name :: n :: ns
    else n :: insertName name ns

def add (m : MarkdownAttributes) (names : List Bytes) : MarkdownAttributes :=
  { m with names := names.foldl (fun ns n => insertName (Text.lower n) ns) m.names }

def new (spread : Bool) (names : List Bytes) : MarkdownAttributes :=
  add ⟨spread, []⟩ names

def defaultNames : List Bytes := [utf8 "title", utf8 "alt", utf8 "caption"]

def initial : MarkdownAttributes := new true defaultNames

def observe (m : MarkdownAttributes) (name : Bytes) : Bool × MarkdownAttributes :=
  let m := if m.spread then m.add [name] else m
  (m.names.contains (Text.lower name), m)

end MarkdownAttributes

end MarkdownTidy
