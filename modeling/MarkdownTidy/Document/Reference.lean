import MarkdownTidy.Document.TextCursor
import MarkdownTidy.Text.Case

/-! Link labels, destinations and titles, and the link reference definitions at the front of a
paragraph. -/

namespace MarkdownTidy

structure Reference where
  /-- The label in the form labels are compared in. -/
  label : Bytes
  destination : Bytes
  title : Option Bytes
  deriving DecidableEq, Repr, Inhabited

def collapseSpaces : Bytes → Bytes
  | [] => []
  | b :: rest =>
    if Bytes.isSpace b then
      if rest.head?.any Bytes.isSpace then collapseSpaces rest else byte ' ' :: collapseSpaces rest
    else b :: collapseSpaces rest

def labelKey (label : Bytes) : Bytes :=
  collapseSpaces (Text.fold (Bytes.trim Bytes.isTrimmed label))

def findReference? (refs : List Reference) (label : Bytes) : Option Reference :=
  refs.find? (·.label == labelKey label)

def addReference (refs : List Reference) (r : Reference) : List Reference :=
  if refs.any (·.label == r.label) then refs else refs ++ [r]

def angleLength? (i : Nat) (hidden : Bool) : Bytes → Option Nat
  | [] => none
  | b :: rest =>
    if hidden then angleLength? (i + 1) false rest
    else if hidesNext b rest then angleLength? (i + 1) true rest
    else if b == byte '>' then some i
    else angleLength? (i + 1) false rest

def bareLength (i opened : Nat) (hidden : Bool) : Bytes → Nat
  | [] => i
  | b :: rest =>
    if hidden then bareLength (i + 1) opened false rest
    else if hidesNext b rest then bareLength (i + 1) opened true rest
    else if b == byte '(' then bareLength (i + 1) (opened + 1) false rest
    else if b == byte ')' then
      if opened == 0 then i else bareLength (i + 1) (opened - 1) false rest
    else if Bytes.isSpace b then i
    else bareLength (i + 1) opened false rest

def readDestination? (c : TextCursor) : Option (Bytes × TextCursor) :=
  let (c, _) := c.skipSpaces
  let l := c.line
  match l with
  | b :: rest =>
    if b == byte '<' then
      (angleLength? 0 false rest).map fun n => (rest.take n, c.advance (n + 2))
    else
      let n := bareLength 0 0 false l
      if n == 0 then none else some (l.take n, c.advance n)
  | [] => none

def joinedValue (lines : List TextLine) (spans : List Span) : Bytes :=
  spans.flatMap fun s => blockValue lines s.start s.stop

def titleCloser? (b : UInt8) : Option UInt8 :=
  if b == byte '"' || b == byte '\'' then some b
  else if b == byte '(' then some (byte ')')
  else none

def readTitle? (lines : List TextLine) (c : TextCursor) : Option (Bytes × TextCursor) :=
  let (c, _) := c.skipSpaces
  match titleCloser? c.head with
  | none => none
  | some closer =>
    match findClosure c.head closer c.step with
    | (some spans, c) => some (joinedValue lines spans, c)
    | (none, _) => none

/-- A definition that was read, the lines it takes, and where reading goes on. -/
structure Definition where
  reference : Reference
  first : Nat
  /-- The line after the last one. -/
  last : Nat
  cursor : TextCursor

/-- Reads one link reference definition. -/
def readDefinition? (lines : List TextLine) (c : TextCursor) : Option Definition := do
  let (c, _) := c.skipSpaces
  let l ← c.peek?
  let first := c.index
  let (width, count) := Indent.measure l 0
  guard (width ≤ 3)
  let at_ := if width != 0 then count + 1 else count
  guard ((l.drop at_).head? == some (byte '['))
  let (closed, c) := findClosure (byte '[') (byte ']') (c.advance (at_ + 1))
  let label := joinedValue lines (← closed)
  guard (!Bytes.isBlank label)
  guard (c.head == byte ':')
  let (c, _) := c.step.skipSpaces
  let (destination, c) ← readDestination? c
  let endsLine := Bytes.isBlank c.line
  let last := c.index
  let define (title : Option Bytes) (last : Nat) (c : TextCursor) : Definition :=
    ⟨⟨labelKey label, destination, title⟩, first, last, c⟩
  let (c, skipped) := c.skipSpaces
  match titleCloser? c.head with
  | none => if endsLine then some (define none (last + 1) c) else none
  | some closer =>
    guard (skipped != 0)
    match findClosure c.head closer c.step with
    | (none, c) => if endsLine then some (define none (last + 1) c.nextLine) else none
    | (some spans, c) =>
      let title := joinedValue lines spans
      if !Bytes.isBlank c.line then
        if endsLine then some (define (some title) last c) else none
      else some (define (some title) (c.index + 1) c)

def readDefinitions (lines : List TextLine) : Nat → TextCursor → List Definition
  | 0, _ => []
  | fuel + 1, c =>
    match readDefinition? lines c with
    | none => []
    | some d => d :: readDefinitions lines fuel d.cursor

def removeDefinitions (spans : List Span) (offset : Nat) : List Definition → List Span
  | [] => spans
  | d :: ds =>
    if spans.isEmpty then spans
    else
      let last := if d.first == d.last then d.last + 1 else d.last
      removeDefinitions (spans.take (d.first - offset) ++ spans.drop (last - offset)) last ds

end MarkdownTidy
