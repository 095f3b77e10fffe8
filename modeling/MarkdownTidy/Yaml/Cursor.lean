import MarkdownTidy.Text.Utf8
import MarkdownTidy.Yaml.Problem

/-! A place in the text of a stream, with what is still to be read. -/

namespace MarkdownTidy.Yaml

/-! ### Classes of what a text begins with -/

def isBlank (c : UInt8) : Bool := c == byte ' ' || c == byte '\t'

def isWord (c : UInt8) : Bool := Bytes.isAlphanumeric c || c == byte '_' || c == byte '-'

def atBreak : Bytes → Bool
  | 10 :: _ | 13 :: _ => true
  | 0xC2 :: 0x85 :: _ => true
  | 0xE2 :: 0x80 :: c :: _ => c == 0xA8 || c == 0xA9
  | _ => false

def atBlank : Bytes → Bool
  | c :: _ => isBlank c
  | [] => false

def atLineEnd (s : Bytes) : Bool := s.isEmpty || atBreak s

def atGap (s : Bytes) : Bool := s.isEmpty || atBlank s || atBreak s

def atDocumentMark (s : Bytes) : Bool :=
  (Bytes.startsWith s (utf8 "---") || Bytes.startsWith s (utf8 "...")) && atGap (s.drop 3)

def widthOf (b : UInt8) : Nat :=
  if b < 0xC0 then 1 else if b < 0xE0 then 2 else if b < 0xF0 then 3 else 4

/-! ### Cursors -/

structure Cursor where
  rest : Bytes
  mark : Mark := {}
  /-- The line ends read since the last character that is no blank. -/
  breaks : Nat := 0
  deriving Repr, Inhabited

namespace Cursor

def current (c : Cursor) : UInt8 := c.rest.headD 0

def following (c : Cursor) : UInt8 := (c.rest.drop 1).headD 0

def atEnd (c : Cursor) : Bool := c.rest.isEmpty

/-- Passes one character that is no line end; gives its bytes. -/
def take (c : Cursor) : Bytes × Cursor :=
  match c.rest with
  | [] => ([], c)
  | b :: _ =>
    let w := widthOf b
    (c.rest.take w,
      { c with
        rest := c.rest.drop w
        mark := { c.mark with index := c.mark.index + 1, column := c.mark.column + 1 }
        breaks := if isBlank b then c.breaks else 0 })

def skip (c : Cursor) : Cursor := c.take.2

def skipMany : Nat → Cursor → Cursor
  | 0, c => c
  | n + 1, c => skipMany n c.skip

def takeBreak (c : Cursor) : Bytes × Cursor :=
  let next (width chars : Nat) : Cursor :=
    { rest := c.rest.drop width, mark := ⟨c.mark.index + chars, c.mark.line + 1, 0⟩,
      breaks := c.breaks + 1 }
  match c.rest with
  | 13 :: 10 :: _ => ([10], next 2 2)
  | 13 :: _ | 10 :: _ => ([10], next 1 1)
  | 0xC2 :: 0x85 :: _ => ([10], next 2 1)
  | 0xE2 :: 0x80 :: b :: _ => if b == 0xA8 || b == 0xA9 then ([0xE2, 0x80, b], next 3 1) else ([], c)
  | _ => ([], c)

def skipBreak (c : Cursor) : Cursor := c.takeBreak.2

def takeWhile (p : UInt8 → Bool) (c : Cursor) : Bytes × Cursor :=
  let s := c.rest.takeWhile p
  (s, skipMany s.length c)

def skipBlanks (c : Cursor) : Cursor := (c.takeWhile isBlank).2

def skipSpaces (c : Cursor) : Cursor := (c.takeWhile (· == byte ' ')).2

def takeLineUpTo : Nat → Cursor → Bytes × Cursor
  | 0, c => ([], c)
  | fuel + 1, c =>
    if atLineEnd c.rest then ([], c)
    else
      let (s, c) := c.take
      let (t, c) := takeLineUpTo fuel c
      (s ++ t, c)

def takeLine (c : Cursor) : Bytes × Cursor := takeLineUpTo c.rest.length c

def skipGapUpTo : Nat → Cursor → Cursor
  | 0, c => c
  | fuel + 1, c =>
    if atBreak c.rest then skipGapUpTo fuel c.skipBreak
    else if atBlank c.rest then skipGapUpTo fuel c.skip
    else c

end Cursor

end MarkdownTidy.Yaml
