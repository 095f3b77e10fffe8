import MarkdownTidy.Document.Node
import MarkdownTidy.Document.TextCursor
import MarkdownTidy.Text.Blank
import MarkdownTidy.Text.Symbol

/-! Inline content while it is being read: finished nodes, delimiter runs that may become emphasis,
and opening brackets that may become links. -/

namespace MarkdownTidy

/-- A run of `*`, `_` or `~`. -/
structure Delimiter where
  mark : UInt8
  span : Span
  /-- The number of bytes not yet used up. -/
  length : Nat
  /-- The number of bytes as written. -/
  written : Nat
  canOpen : Bool
  canClose : Bool
  deriving Repr, DecidableEq

/-- An opening bracket, of an image if it begins with an exclamation mark. -/
structure Bracket where
  image : Bool
  span : Span
  deriving Repr, DecidableEq

inductive Piece where
  | node (n : Node)
  | delimiter (d : Delimiter)
  | bracket (b : Bracket)
  /-- Matched delimiters around content that may still hold brackets. -/
  | wrapped (kind : Kind) (inner : List Piece)

namespace Delimiter

/-- Reads a delimiter run at the front of a line, after the character `before`. -/
def scan (line : Bytes) (before : Nat) (start : Nat) : Option Delimiter :=
  match line with
  | [] => none
  | mark :: _ =>
    let length := (line.takeWhile (· == mark)).length
    let rest := line.drop length
    let after := if rest.isEmpty then 32 else (Utf8.decode rest).1
    let leftFlanking := !Text.isBlank after &&
      (!Text.isPunctuation after || Text.isBlank before || Text.isPunctuation before)
    let rightFlanking := !Text.isBlank before &&
      (!Text.isPunctuation before || Text.isBlank after || Text.isPunctuation after)
    let (canOpen, canClose) :=
      if mark == byte '_' then
        (leftFlanking && (!rightFlanking || Text.isPunctuation before),
          rightFlanking && (!leftFlanking || Text.isPunctuation after))
      else (leftFlanking, rightFlanking)
    some ⟨mark, ⟨start, start + length, 0⟩, length, length, canOpen, canClose⟩

def consumption (opener closer : Delimiter) : Nat :=
  if (opener.canClose || closer.canOpen) && (opener.written + closer.written) % 3 == 0 &&
      closer.written % 3 != 0 then 0
  else if opener.length ≥ 2 && closer.length ≥ 2 then 2
  else 1

def consume (d : Delimiter) (n : Nat) : Delimiter :=
  { d with
    length := d.length - n
    span := { d.span with stop := d.span.start + (d.length - n) } }

def wrapper (mark : UInt8) (n : Nat) : Kind :=
  if mark == byte '~' then .strikethrough else .emphasis n

end Delimiter

def extendText? (n : Node) (s : Span) : Option Node :=
  match n.kind with
  | .text span soft hard raw =>
    if span.stop == s.start && !soft then
      some (n.withKind (.text { span with stop := s.stop } soft hard raw))
    else none
  | _ => none

namespace Piece

def addText (pieces : List Piece) (s : Span) : List Piece :=
  match pieces with
  | .node n :: earlier =>
    match extendText? n s with
    | some n => .node n :: earlier
    | none => .node (.ofText s) :: pieces
  | _ => .node (.ofText s) :: pieces

def settleInner (done : List Piece) : List Piece → List Piece
  | [] => done.reverse
  | .delimiter d :: rest => settleInner (addText done d.span) rest
  | p :: rest => settleInner (p :: done) rest

def settleAll (done : List Piece) (afterDelimiter : Bool) : List Piece → List Piece
  | [] => done.reverse
  | .delimiter d :: rest =>
    settleAll (if afterDelimiter then .node (.ofText d.span) :: done else addText done d.span)
      true rest
  | p :: rest => settleAll (p :: done) false rest

def findOpener (closer : Delimiter) (between : List Piece) (candidate : Bool) :
    List Piece → Option (List Piece × Delimiter × List Piece × Nat) × Bool
  | [] => (none, candidate)
  | .delimiter d :: earlier =>
    if d.canOpen && d.mark == closer.mark then
      let n := d.consumption closer
      if n > 0 then (some (between, d, earlier, n), true)
      else findOpener closer (.delimiter d :: between) true earlier
    else findOpener closer (.delimiter d :: between) candidate earlier
  | p :: earlier => findOpener closer (p :: between) candidate earlier

/-- Matches delimiters from left to right; `done` are the pieces to the left in reverse. -/
def matchDelimiters : Nat → List Piece → List Piece → List Piece
  | 0, done, rest => done.reverse ++ rest
  | _ + 1, done, [] => done.reverse
  | fuel + 1, done, .delimiter d :: rest =>
    if !d.canClose then matchDelimiters fuel (.delimiter d :: done) rest
    else
      match findOpener d [] false done with
      | (none, candidate) =>
        if !candidate && !d.canOpen then matchDelimiters fuel (addText done d.span) rest
        else matchDelimiters fuel (.delimiter d :: done) rest
      | (some (between, opener, earlier, n), _) =>
        let opener := opener.consume n
        let closer := d.consume n
        let left := if opener.length == 0 then earlier else .delimiter opener :: earlier
        let node := .wrapped (Delimiter.wrapper d.mark n) (settleInner [] between)
        matchDelimiters fuel (node :: left)
          (if closer.length == 0 then rest else .delimiter closer :: rest)
  | fuel + 1, done, p :: rest => matchDelimiters fuel (p :: done) rest

def matchSteps (pieces : List Piece) : Nat :=
  (pieces.map fun
    | .delimiter d => d.length + 2
    | _ => 1).foldl (· + ·) 0 + 1

def process (pieces : List Piece) : List Piece :=
  settleAll [] false (matchDelimiters (matchSteps pieces) [] pieces)

mutual

def toNode : Piece → Node
  | .node n => n
  | .delimiter d => .ofText d.span
  | .bracket b => .ofText b.span
  | .wrapped k inner => .leaf k (toNodes inner)

def toNodes : List Piece → List Node
  | [] => []
  | p :: ps => toNode p :: toNodes ps

end

end Piece

end MarkdownTidy
