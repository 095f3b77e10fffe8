import MarkdownTidy.Document.Inline.Piece
import MarkdownTidy.Document.Reference
import MarkdownTidy.Document.Rule

/-! What inline rules see and change. -/

namespace MarkdownTidy

/-- The surroundings of the block whose text is read. -/
structure InlineScope where
  grammar : Grammar
  source : Bytes
  lines : List TextLine
  references : List Reference
  /-- The kind of the block that holds the block. -/
  holder : Kind
  /-- Whether the block is the first in its holder. -/
  first : Bool

/-- What is carried from block to block: the shared names, and the footnotes with the number each
reference gave them, zero for a footnote not yet referred to. -/
structure InlineMemory where
  names : MarkdownAttributes
  footnotes : List (Bytes × Nat)
  /-- The indices that footnote links refer to, in order. -/
  links : List Nat := []

/-- The pieces read so far. An opening bracket sets the pieces before it aside. -/
structure InlineState where
  /-- Pieces since the innermost open bracket, in reverse. -/
  pieces : List Piece := []
  /-- Open brackets, innermost first, each with the pieces before it in reverse. -/
  open_ : List (Bracket × List Piece) := []
  memory : InlineMemory

namespace InlineState

def hasPieces (s : InlineState) : Bool := !s.pieces.isEmpty || !s.open_.isEmpty

def push (s : InlineState) (p : Piece) : InlineState := { s with pieces := p :: s.pieces }

def pushNode (s : InlineState) (n : Node) : InlineState := s.push (.node n)

def pushText (s : InlineState) (span : Span) : InlineState :=
  { s with pieces := Piece.addText s.pieces span }

def dropBracket (s : InlineState) : InlineState :=
  match s.open_ with
  | [] => s
  | (b, before) :: outer =>
    { s with pieces := s.pieces ++ Piece.addText before b.span, open_ := outer }

def flatten (s : InlineState) : List Piece :=
  (s.open_.foldl (fun acc (b, before) => before.reverse ++ .bracket b :: acc) s.pieces.reverse)

end InlineState

/-- What trying a rule led to. A rule that refuses may still have settled a bracket. -/
inductive Attempt where
  | refused (state : InlineState)
  | applied (state : InlineState) (cursor : TextCursor)

def Attempt.state : Attempt → InlineState
  | .refused s => s
  | .applied s _ => s

end MarkdownTidy
