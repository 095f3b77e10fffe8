import MarkdownTidy.Document.Span
import MarkdownTidy.Document.Indent
import MarkdownTidy.Text.Utf8

/-! A position in the lines of one block, the container markers between them left out. -/

namespace MarkdownTidy

/-- A line of a block: its span, its bytes, and the source in front of it in reverse. -/
structure TextLine where
  span : Span
  text : Bytes
  before : Bytes
  deriving Repr, Inhabited

def textLines (source : Bytes) (spans : List Span) : List TextLine :=
  spans.map fun s => ⟨s, Bytes.slice source s.start s.stop, (source.take s.start).reverse⟩

structure TextCursor where
  index : Nat
  /-- The source offset of the position. -/
  pos : Nat
  padding : Nat
  /-- The source in front of the position, in reverse. -/
  seen : Bytes
  /-- What is left of the line. -/
  rest : Bytes
  later : List TextLine
  deriving Repr, Inhabited

namespace TextCursor

def atLine (index : Nat) (l : TextLine) (later : List TextLine) : TextCursor :=
  ⟨index, l.span.start, l.span.padding, l.before, l.text, later⟩

def ofLines : List TextLine → TextCursor
  | [] => ⟨0, 0, 0, [], [], []⟩
  | l :: ls => atLine 0 l ls

def finish (c : TextCursor) : TextCursor :=
  ⟨c.index + 1, c.pos + c.rest.length, 0, c.rest.reverse ++ c.seen, [], []⟩

def atEnd (c : TextCursor) : Bool := c.rest.isEmpty && c.later.isEmpty

def peek? (c : TextCursor) : Option Bytes :=
  if c.atEnd then none else some (Bytes.spaces c.padding ++ c.rest)

def line (c : TextCursor) : Bytes := (peek? c).getD []

def head (c : TextCursor) : UInt8 := c.line.headD 0

def span (c : TextCursor) : Span := ⟨c.pos, c.pos + c.rest.length, c.padding⟩

def nextLine (c : TextCursor) : TextCursor :=
  match c.later with
  | [] => c.finish
  | l :: ls => atLine (c.index + 1) l ls

def step (c : TextCursor) : TextCursor :=
  if c.padding > 0 then { c with padding := c.padding - 1 }
  else
    match c.rest with
    | b :: b' :: r => { c with pos := c.pos + 1, seen := b :: c.seen, rest := b' :: r }
    | [b] =>
      if c.later.isEmpty then { c with pos := c.pos + 1, seen := b :: c.seen, rest := [] }
      else c.nextLine
    | [] => if c.later.isEmpty then { c with pos := c.pos + 1 } else c.nextLine

def advance (c : TextCursor) : Nat → TextCursor
  | 0 => c
  | n + 1 => c.step.advance n

def preceding (c : TextCursor) (first : Option Span) : Nat :=
  if c.padding > 0 then 32
  else
    match first with
    | none => 10
    | some f =>
      if c.index == 0 && c.pos ≤ f.start then 10
      else if c.seen.isEmpty then 10
      else Utf8.precedingOfReversed c.seen

def skipSpaces (c : TextCursor) : TextCursor × Nat := go (c.line.length + left c.later) c 0
where
  left (ls : List TextLine) : Nat := (ls.map fun l => l.text.length + l.span.padding).foldl (· + ·) 0
  go : Nat → TextCursor → Nat → TextCursor × Nat
    | 0, c, n => (c, n)
    | fuel + 1, c, n =>
      match c.peek? with
      | some (b :: _) => if Bytes.isSpace b then go fuel c.step (n + 1) else (c, n)
      | some [] => go fuel c.step n
      | none => (c, n)

end TextCursor

/-- The text of `start … stop` in a block, with the padding of every line touched. -/
def blockValue (lines : List TextLine) (start stop : Nat) : Bytes :=
  let holding := lines.reverse.dropWhile (fun l => start < l.span.start)
  match holding with
  | [] => []
  | l :: _ => go start (l :: lines.drop holding.length)
where
  go (from_ : Nat) : List TextLine → Bytes
    | [] => []
    | l :: ls =>
      let piece := Bytes.spaces l.span.padding ++
        (l.text.drop (from_ - l.span.start)).take (stop - from_)
      if l.span.stop > stop then piece
      else
        match ls with
        | [] => piece
        | l' :: _ => piece ++ go l'.span.start ls

def hidesNext (b : UInt8) (rest : Bytes) : Bool :=
  b == byte '\\' && rest.head?.any Bytes.isPunct

/-- Where a search on one line ended. -/
inductive LineSearch where
  | found (offset : Nat)
  | refused
  | missing
  deriving DecidableEq, Repr

def searchLine (opener closer : UInt8) (i : Nat) (hidden : Bool) : Bytes → LineSearch
  | [] => .missing
  | b :: rest =>
    if hidden then searchLine opener closer (i + 1) false rest
    else if hidesNext b rest then searchLine opener closer (i + 1) true rest
    else if b == closer then .found i
    else if b == opener then .refused
    else searchLine opener closer (i + 1) false rest

def findClosure (opener closer : UInt8) (c : TextCursor) : Option (List Span) × TextCursor :=
  go (c.later.length + 1) c []
where
  go : Nat → TextCursor → List Span → Option (List Span) × TextCursor
    | 0, c, _ => (none, c)
    | fuel + 1, c, spans =>
      match c.peek? with
      | none => (none, c)
      | some l =>
        match searchLine opener closer 0 false l with
        | .found i =>
          (some (spans ++ [{ c.span with stop := c.span.start + i }]), c.advance (i + 1))
        | .refused => (none, c)
        | .missing => go fuel c.nextLine (spans ++ [c.span])

end MarkdownTidy
