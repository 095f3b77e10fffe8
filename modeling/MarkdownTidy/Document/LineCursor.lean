import MarkdownTidy.Document.Span
import MarkdownTidy.Document.Indent

/-! A position in a source that is read line by line. Containers take their markers off the front of
a line; what is left, with the columns of a partly taken tab as padding, is what inner blocks see. -/

namespace MarkdownTidy

/-- A source line, its line feed included, and where it starts. -/
structure SourceLine where
  start : Nat
  text : Bytes
  deriving Repr, Inhabited

def sourceLines (start : Nat) : List Bytes → List SourceLine
  | [] => []
  | l :: ls => ⟨start, l⟩ :: sourceLines (start + l.length) ls

structure LineCursor where
  number : Nat
  line : SourceLine
  /-- Bytes of the line already taken. -/
  taken : Nat
  padding : Nat
  later : List SourceLine
  deriving Repr, Inhabited

namespace LineCursor

def ofSource (source : Bytes) : LineCursor :=
  match sourceLines 0 (Bytes.lines source) with
  | [] => ⟨0, ⟨0, []⟩, 0, 0, []⟩
  | l :: ls => ⟨0, l, 0, 0, ls⟩

def peek? (c : LineCursor) : Option Bytes :=
  match c.line.text.drop c.taken with
  | [] => none
  | rest => some (Bytes.spaces c.padding ++ rest)

def rest (c : LineCursor) : Bytes := (peek? c).getD []

def span (c : LineCursor) : Span :=
  ⟨c.line.start + c.taken, c.line.start + c.line.text.length, c.padding⟩

def column (c : LineCursor) : Nat := Indent.column (c.line.text.take c.taken) - c.padding

def nextLine (c : LineCursor) : LineCursor :=
  match c.later with
  | [] => ⟨c.number + 1, ⟨c.line.start + c.line.text.length, []⟩, 0, 0, []⟩
  | l :: ls => ⟨c.number + 1, l, 0, 0, ls⟩

/-- Takes `n` columns of padding or bytes, going on to the next line after a line feed. -/
def advance (c : LineCursor) (n : Nat) : LineCursor :=
  go c.number c.line c.taken c.padding n c.later
where
  go (number : Nat) (line : SourceLine) (taken padding n : Nat) : List SourceLine → LineCursor
    | [] =>
      if n ≤ padding then ⟨number, line, taken, padding - n, []⟩
      else
        let n := n - padding
        let left := line.text.length - taken
        if n < left then ⟨number, line, taken + n, 0, []⟩
        else if line.text.getLast? == some Bytes.newline then
          ⟨number + 1, ⟨line.start + line.text.length, []⟩, 0, 0, []⟩
        else ⟨number, line, line.text.length, 0, []⟩
    | l :: ls =>
      if n ≤ padding then ⟨number, line, taken, padding - n, l :: ls⟩
      else
        let n := n - padding
        let left := line.text.length - taken
        if n < left then ⟨number, line, taken + n, 0, l :: ls⟩
        else go (number + 1) l 0 0 (n - left) ls

def advancePadded (c : LineCursor) (n padding : Nat) : LineCursor :=
  let c := c.advance n
  if padding > c.padding then { c with padding := padding } else c

def toLastByte (c : LineCursor) : LineCursor := c.advance (c.span.length - 1)

def tabBeginsAt (c : LineCursor) (column : Nat) : Bool :=
  column == Indent.column (c.line.text.take (c.taken - 1))

end LineCursor

end MarkdownTidy
