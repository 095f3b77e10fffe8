import MarkdownTidy.Document.Node
import MarkdownTidy.Text.Blank

/-! Code blocks and code spans. -/

namespace MarkdownTidy.Writer

def linesValue (source : Bytes) (lines : List Span) : Bytes :=
  lines.flatMap fun l => Bytes.spaces l.padding ++ l.value source

def leadingRun (mark : UInt8) (line : Bytes) : Nat :=
  ((line.dropWhile (· == byte ' ')).takeWhile (· == mark)).length

def fence (content : Bytes) (mark : UInt8) : Bytes :=
  let longest := ((Bytes.split Bytes.newline content).map (leadingRun mark)).foldl max 0
  List.replicate (if longest < 3 then 3 else longest + 1) mark

def codeBlock (content info : Bytes) : Bytes :=
  let mark := if info.contains (byte '`') then byte '~' else byte '`'
  let f := fence content mark
  let ended := content.isEmpty || content.getLast? == some Bytes.newline
  f ++ info ++ [Bytes.newline] ++ content ++ (if ended then [] else [Bytes.newline]) ++ f

/-- The text of one child of a code span; a line feed at its end is a space. -/
def codeText (source : Bytes) (n : Node) : Bytes :=
  match n.kind with
  | .text span .. =>
    let v := span.value source
    if v.getLast? == some Bytes.newline then v.dropLast ++ [byte ' '] else v
  | .string v => v
  | _ => []

/-- A code span, with backticks longer than any inside and a space where its ends need one. -/
def codeSpan (content : Bytes) : Bytes :=
  let ticks := List.replicate (Bytes.longestRun (byte '`') content + 1) (byte '`')
  let atEnds (b : UInt8) : Bool × Bool := (content.head? == some b, content.getLast? == some b)
  let (tickFirst, tickLast) := atEnds (byte '`')
  let (spaceFirst, spaceLast) := atEnds (byte ' ')
  let pad := tickFirst || tickLast ||
    (spaceFirst && spaceLast && !(Text.trimSpace content).isEmpty)
  let content := if pad then byte ' ' :: content ++ [byte ' '] else content
  ticks ++ content ++ ticks

end MarkdownTidy.Writer
