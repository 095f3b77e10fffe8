import MarkdownTidy.Document.Node
import MarkdownTidy.Document.Indent

/-! Tables in the lines of a paragraph: a header row, a delimiter row that aligns the columns, and
body rows. -/

namespace MarkdownTidy.Table

def alignment? (cell : Bytes) : Option Alignment :=
  let body := Bytes.trim Bytes.isSpace cell
  let left := body.head? == some (byte ':')
  let body := if left then body.drop 1 else body
  let dashes := body.takeWhile (· == byte '-')
  let rest := body.drop dashes.length
  if dashes.isEmpty then none
  else if rest.isEmpty then some (if left then .left else .none)
  else if rest == [byte ':'] then some (if left then .center else .right)
  else none

def alignments? (line : Bytes) : Option (List Alignment) :=
  let allowed (b : UInt8) : Bool :=
    Bytes.isSpace b || b == byte '-' || b == byte '|' || b == byte ':'
  if (Indent.measure line 0).1 > 3 || !line.all allowed || line.all (· == byte '-') then none
  else
    let cells := Bytes.split (byte '|') line
    let cells := if (cells.head?.map Bytes.isBlank).getD false then cells.drop 1 else cells
    let cells := if (cells.getLast?.map Bytes.isBlank).getD false then cells.dropLast else cells
    match cells.mapM alignment? with
    | some (a :: as) => some (a :: as)
    | _ => none

def cellLength (previous : Option UInt8) (ticked : Bool) (i : Nat) : Bytes → Nat × List Nat
  | [] => (i, [])
  | b :: rest =>
    let ticked := ticked || b == byte '`'
    if b == byte '|' then
      if previous != some (byte '\\') then (i, [])
      else
        let (n, hidden) := cellLength (some b) ticked (i + 1) rest
        (n, if ticked then (i - 1) :: hidden else hidden)
    else cellLength (some b) ticked (i + 1) rest

/-- Splits a row, which starts at `start`, into cells. Offsets of hidden pipes are offsets in the
source. -/
def cellsFrom (source : Bytes) (alignments : List Alignment) (header : Bool) :
    Nat → Option UInt8 → Nat → Bytes → List Node × List Nat
  | 0, _, _, _ => ([], [])
  | _ + 1, _, _, [] => ([], [])
  | fuel + 1, previous, start, row =>
    match alignments, header with
    | [], false => ([], [])
    | _, _ =>
      let (n, hidden) := cellLength previous false 0 row
      let span := ((⟨start, start + n, 0⟩ : Span).trimLeft source).trimRight source
      let cell := Node.mk { kind := .tableCell (alignments.headD .none), lines := [span] } []
      let (cells, more) :=
        cellsFrom source alignments.tail header fuel (some (byte '|')) (start + n + 1)
          (row.drop (n + 1))
      (cell :: cells, hidden.map (· + start) ++ more)

/-- The cells of a row. Body rows are cut to the number of columns, and every row is filled up to
it. -/
def row (source : Bytes) (alignments : List Alignment) (header : Bool) (line : Span) :
    List Node × List Nat :=
  let span := (line.trimLeft source).trimRight source
  let text := span.value source
  let body := if text.getLast? == some (byte '|') then text.dropLast else text
  let (start, previous, body) :=
    match text with
    | b :: _ => if b == byte '|' then (span.start + 1, some b, body.drop 1) else (span.start, none, body)
    | [] => (span.start, none, [])
  let (cells, hidden) := cellsFrom source alignments header (body.length + 1) previous start body
  let missing := alignments.length - cells.length
  (cells ++ List.replicate missing (Node.leaf (.tableCell .none) []), hidden)

/-- A table found in the lines of a paragraph. -/
structure Found where
  /-- The lines in front of the table. -/
  before : List Span
  table : Node
  hiddenPipes : List Nat

/-- Searches for a delimiter row under a header row; `seen` holds the lines above `above` in
reverse. -/
def search? (source : Bytes) (seen : List Span) (above : Span) : List Span → Option Found
  | [] => none
  | line :: rest =>
    match alignments? (line.value source) with
    | none => search? source (above :: seen) line rest
    | some alignments =>
      let (header, hidden) := row source alignments true above
      if header.length != alignments.length then none
      else
        let rows := rest.map (row source alignments false)
        let body := rows.map fun r => Node.leaf .tableRow r.1
        let before :=
          match seen with
          | [] => []
          | last :: earlier => ({ last with stop := last.stop - 1 } :: earlier).reverse
        some ⟨before, Node.leaf (.table alignments) (Node.leaf .tableHeader header :: body),
          hidden ++ rows.flatMap (·.2)⟩

def find? (source : Bytes) : List Span → Option Found
  | [] => none
  | line :: rest => search? source [] line rest

end MarkdownTidy.Table
