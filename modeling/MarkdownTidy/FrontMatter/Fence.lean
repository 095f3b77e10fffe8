import MarkdownTidy.Bytes

/-! Front matter is a block at the start of a document between two fences. -/

namespace MarkdownTidy.FrontMatter

def afterLineEnd? : Bytes → Option Bytes
  | 10 :: s => some s
  | 13 :: 10 :: s => some s
  | _ => none

def isBlankByte (c : UInt8) : Bool := c == byte ' ' || c == byte '\t'

def afterOpening? (src : Bytes) : Option Bytes :=
  let src :=
    match src with
    | 0xEF :: 0xBB :: 0xBF :: rest => rest
    | _ => src
  match src with
  | 45 :: 45 :: 45 :: rest => afterLineEnd? (rest.dropWhile isBlankByte)
  | _ => none

def afterClosing? (s : Bytes) : Option Bytes :=
  let fenced :=
    match s with
    | 45 :: 45 :: 45 :: rest | 46 :: 46 :: 46 :: rest => some (rest.dropWhile isBlankByte)
    | _ => none
  match fenced with
  | none => none
  | some [] => some []
  | some rest => afterLineEnd? rest

/-- A fenced block with what stands after it. A block without lines has no content. -/
structure Block where
  content : Option Bytes
  body : Bytes
  deriving DecidableEq, Repr

def findContent? : Bytes → Option (Bytes × Bytes)
  | [] => none
  | c :: s =>
    match (afterLineEnd? (c :: s)).bind afterClosing? with
    | some body => some ([], body)
    | none => (findContent? s).map fun (content, body) => (c :: content, body)

/-- The front matter of a document. A closing fence behind some content is preferred to one right
after the opening fence. -/
def block? (src : Bytes) : Option Block :=
  match afterOpening? src with
  | none => none
  | some rest =>
    match findContent? rest with
    | some (content, body) => some ⟨some content, body⟩
    | none => (afterClosing? rest).map fun body => ⟨none, body⟩

end MarkdownTidy.FrontMatter
