import MarkdownTidy.Document.Indent

/-! The lines that begin or delimit blocks: list markers, thematic breaks, heading underlines. -/

namespace MarkdownTidy

/-- A list marker at the front of a line. -/
structure ListMarker where
  ordered : Bool
  /-- Spaces in front. -/
  indent : Nat
  /-- The offset right after the marker. -/
  stop : Nat
  /-- The number, zero for a bullet. -/
  number : Nat
  /-- The bullet or the delimiter after the number. -/
  mark : UInt8
  /-- What follows the marker. -/
  rest : Bytes
  deriving Repr, DecidableEq

namespace ListMarker

def isBullet (b : UInt8) : Bool := b == byte '-' || b == byte '*' || b == byte '+'

def finish (ordered : Bool) (indent width number : Nat) (mark : UInt8) (rest : Bytes) :
    Option ListMarker :=
  let marker := some ⟨ordered, indent, indent + width, number, mark, rest⟩
  match rest with
  | [] => marker
  | b :: _ =>
    if b == Bytes.newline then marker
    else if (Indent.measure rest 0).1 == 0 then none
    else marker

/-- The list marker a line begins with, at most three spaces in. -/
def read? (line : Bytes) : Option ListMarker :=
  let indent := (line.takeWhile (· == byte ' ')).length
  if indent > 3 then none
  else
    match line.drop indent with
    | [] => none
    | b :: rest =>
      if isBullet b then finish false indent 1 0 b rest
      else
        let digits := (b :: rest).takeWhile Bytes.isDigit
        if digits.isEmpty || digits.length > 9 then none
        else
          match (b :: rest).drop digits.length with
          | m :: rest =>
            if m == byte '.' || m == byte ')' then
              finish true indent (digits.length + 1) (Bytes.toNat digits) m rest
            else none
          | [] => none

def isEmpty (m : ListMarker) : Bool := Bytes.isBlank m.rest

def gap (m : ListMarker) : Nat :=
  if m.isEmpty then 1
  else
    let width := (Indent.measure m.rest m.stop).1
    if width > 4 then 1 else width

end ListMarker

def isThematicBreak (line : Bytes) (column : Nat) : Bool :=
  let (width, count) := Indent.measure line column
  let marks := (line.drop count).filter (!Bytes.isSpace ·)
  width ≤ 3 &&
    match marks with
    | [] => false
    | m :: rest =>
      (m == byte '*' || m == byte '-' || m == byte '_') && rest.all (· == m) && rest.length ≥ 2

def underlineLevel? (line : Bytes) : Option Nat :=
  let body := line.dropWhile (· == byte ' ')
  if line.length - body.length > 3 then none
  else
    match Bytes.trimRight Bytes.isSpace body with
    | [] => none
    | m :: rest =>
      if !rest.all (· == m) then none
      else if m == byte '=' then some 1
      else if m == byte '-' then some 2
      else none

end MarkdownTidy
