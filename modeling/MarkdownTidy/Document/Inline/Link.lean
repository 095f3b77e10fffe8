import MarkdownTidy.Document.Inline.State

/-! Links and images. Where a closing bracket stands, the innermost open bracket becomes a link if a
destination in parentheses follows or a label is defined, and plain text otherwise. -/

namespace MarkdownTidy.Inline

mutual

def nodeHasLink : Node → Bool
  | .mk info children =>
    (match info.kind with
      | .link .. => true
      | _ => false) || nodesHaveLink children

def nodesHaveLink : List Node → Bool
  | [] => false
  | n :: ns => nodeHasLink n || nodesHaveLink ns

end

def pieceHasLink : Piece → Bool
  | .node n => nodeHasLink n
  | _ => false

/-- A link's destination and title. -/
structure Target where
  destination : Bytes
  title : Option Bytes

/-- Reads a destination and title in parentheses. -/
def inlineTarget? (lines : List TextLine) (c : TextCursor) : Option (Target × TextCursor) :=
  let (c, _) := c.step.skipSpaces
  if c.head == byte ')' then some (⟨[], none⟩, c.step)
  else
    match readDestination? c with
    | none => none
    | some (destination, c) =>
      let (c, _) := c.skipSpaces
      if c.head == byte ')' then some (⟨destination, none⟩, c.step)
      else
        match readTitle? lines c with
        | none => none
        | some (title, c) =>
          let (c, _) := c.skipSpaces
          if c.head == byte ')' then some (⟨destination, some title⟩, c.step) else none

def longestLabel : Nat := 999

/-- What a label in brackets after a closing bracket refers to. -/
inductive Labelled where
  /-- The brackets do not close. -/
  | unclosed
  /-- The label is not defined. -/
  | undefined
  | defined (target : Target) (cursor : TextCursor)

def labelTarget (scope : InlineScope) (textStart textStop : Nat) (c : TextCursor) : Labelled :=
  match findClosure (byte '[') (byte ']') c.step with
  | (none, _) => .unclosed
  | (some spans, after) =>
    let label := joinedValue scope.lines spans
    let label := if Bytes.isBlank label then blockValue scope.lines textStart textStop else label
    if label.length > longestLabel then .undefined
    else
      match findReference? scope.references label with
      | none => .undefined
      | some r => .defined ⟨r.destination, r.title⟩ after

/-- The target that follows a closing bracket, and the position after it. -/
def target? (scope : InlineScope) (b : Bracket) (closing : Nat) (after : TextCursor) :
    Option (Target × TextCursor) :=
  let shortcut : Option (Target × TextCursor) :=
    let label := blockValue scope.lines b.span.stop closing
    if label.length > longestLabel then none
    else (findReference? scope.references label).map fun r => (⟨r.destination, r.title⟩, after)
  if after.head == byte '(' then
    match inlineTarget? scope.lines after with
    | some r => some r
    | none => shortcut
  else if after.head == byte '[' then
    match labelTarget scope b.span.stop closing after with
    | .defined t c => some (t, c)
    | .undefined => none
    | .unclosed => shortcut
  else shortcut

def openBracket (s : InlineState) (b : Bracket) : InlineState :=
  { s with pieces := [], open_ := (b, s.pieces) :: s.open_ }

def reachesTooFar (outer : List (Bracket × List Piece)) : Bool :=
  match outer.head?, outer.getLast? with
  | some (inner, _), some (first, _) => inner.span.stop - first.span.start > longestLabel - 1
  | _, _ => false

def closeBracket (scope : InlineScope) (s : InlineState) (c : TextCursor) : Attempt :=
  match s.open_ with
  | [] => .refused s
  | (b, before) :: outer =>
    if reachesTooFar outer || (!b.image && s.pieces.any pieceHasLink) then .refused s.dropBracket
    else
      match target? scope b c.pos c.step with
      | none => .refused s.dropBracket
      | some (t, after) =>
        let inner := Piece.toNodes (Piece.process s.pieces.reverse)
        let kind := if b.image then Kind.image t.destination t.title else .link t.destination t.title
        .applied { s with pieces := .node (.leaf kind inner) :: before, open_ := outer } after

def link (scope : InlineScope) (s : InlineState) (c : TextCursor) : Attempt :=
  match c.line with
  | a :: rest =>
    if a == byte '!' then
      if rest.head? == some (byte '[') then
        .applied (openBracket s ⟨true, ⟨c.pos, c.pos + 2, 0⟩⟩) (c.advance 2)
      else .refused s
    else if a == byte '[' then
      .applied (openBracket s ⟨false, ⟨c.pos, c.pos + 1, 0⟩⟩) c.step
    else closeBracket scope s c
  | [] => .refused s

end MarkdownTidy.Inline
