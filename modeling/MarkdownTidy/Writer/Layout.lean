import MarkdownTidy.Document.Node
import MarkdownTidy.Text.Blank
import MarkdownTidy.Text.Width

/-! The layout of blocks: indenting and marking their lines, and writing tables on a grid, where every
column is as wide as its widest cell, and at least three columns wide. -/

namespace MarkdownTidy.Writer

/-! ### Lines -/

def isBlankText (s : Bytes) : Bool := (Utf8.codePoints s).all fun r => Text.isBlank r.code

def isPadding (b : UInt8) : Bool := b == byte ' ' || b == byte '\t'

theorem isPadding_eq_false {b : UInt8} (h : Bytes.isSpace b = false) : isPadding b = false := by
  simp only [Bytes.isSpace, Bool.or_eq_false_iff] at h
  simp only [isPadding, Bool.or_eq_false_iff]
  exact ⟨h.1.1.1.1, h.1.1.1.2⟩

def prefixLine (marker line : Bytes) : Bytes :=
  if isBlankText line then Bytes.trimRight isPadding marker else marker ++ line

def prefixLines (s first rest : Bytes) : Bytes :=
  match Bytes.split Bytes.newline s with
  | [] => []
  | l :: ls => Bytes.join [Bytes.newline] (prefixLine first l :: ls.map (prefixLine rest))

def trimNewlines (s : Bytes) : Bytes := Bytes.trimRight (· == Bytes.newline) s

def onOneLine (s : Bytes) : Bytes :=
  Text.trimSpace (s.map fun b => if b == Bytes.newline then byte ' ' else b)

/-! ### Tables -/

def padCell (s : Bytes) (width : Nat) (a : Alignment) : Bytes :=
  let gap := width - Text.width s
  match a with
  | .right => Bytes.spaces gap ++ s
  | .center => Bytes.spaces (gap / 2) ++ s ++ Bytes.spaces (gap - gap / 2)
  | _ => s ++ Bytes.spaces gap

def dashes (n : Nat) : Bytes := List.replicate n (byte '-')

def delimiterCell (width : Nat) : Alignment → Bytes
  | .left => byte ':' :: dashes (width - 1)
  | .right => dashes (width - 1) ++ [byte ':']
  | .center => byte ':' :: dashes (width - 2) ++ [byte ':']
  | .none => dashes width

def rowLine (cells : List Bytes) : Bytes :=
  utf8 "| " ++ Bytes.join (utf8 " | ") cells ++ utf8 " |"

def columnCount (alignments : List Alignment) (rows : List (List Bytes)) : Nat :=
  rows.foldl (fun n cells => max n cells.length) alignments.length

def columnWidth (rows : List (List Bytes)) (i : Nat) : Nat :=
  rows.foldl (fun w cells => max w (Text.width (cells.getD i []))) 3

/-- A table, given the texts of its cells row by row. -/
def table (alignments : List Alignment) (rows : List (List Bytes)) : Bytes :=
  let columns := List.range (columnCount alignments rows)
  let widths := columns.map (columnWidth rows)
  let grid := columns.zip widths
  let alignment (i : Nat) : Alignment := alignments.getD i .none
  let line (cells : List Bytes) : Bytes :=
    rowLine (grid.map fun (i, w) => padCell (cells.getD i []) w (alignment i))
  let delimiters := rowLine (grid.map fun (i, w) => delimiterCell w (alignment i))
  match rows with
  | [] => []
  | header :: body => Bytes.join [Bytes.newline] (line header :: delimiters :: body.map line)

end MarkdownTidy.Writer
