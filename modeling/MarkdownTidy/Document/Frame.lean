import MarkdownTidy.Document.LineCursor
import MarkdownTidy.Document.Node
import MarkdownTidy.Document.Reference
import MarkdownTidy.Document.Rule
import MarkdownTidy.Document.Table
import MarkdownTidy.Text.Utf8

/-! Open blocks and how they are closed. -/

namespace MarkdownTidy

/-! ### Identifiers for headings

The ASCII letters, digits and word separators of a text, made unique by a number. -/

namespace HeadingId

def slug (skip : Nat) : Bytes → Bytes
  | [] => []
  | b :: rest =>
    match skip with
    | n + 1 => slug n rest
    | 0 =>
      let n := Utf8.sequenceLength b
      if n != 1 then slug (n - 1) rest
      else if Bytes.isAlphanumeric b then Bytes.lowerByte b :: slug 0 rest
      else if Bytes.isSpace b || b == byte '-' || b == byte '_' then byte '-' :: slug 0 rest
      else slug 0 rest

def number (taken : List Bytes) (id : Bytes) (i : Nat) : Nat → Bytes
  | 0 => id ++ utf8 "-" ++ decimal i
  | fuel + 1 =>
    let candidate := id ++ utf8 "-" ++ decimal i
    if taken.contains candidate then number taken id (i + 1) fuel else candidate

def generate (taken : List Bytes) (text : Bytes) : Bytes :=
  let id := slug 0 (Bytes.trim Bytes.isTrimmed text)
  let id := if id.isEmpty then utf8 "heading" else id
  if taken.contains id then number taken id 1 taken.length else id

end HeadingId

/-- A block that may still grow. -/
inductive OpenBlock where
  | paragraph
  | heading (level : Nat)
  | thematicBreak
  | codeBlock
  | fencedCode (info : Option Span) (mark : UInt8) (indent length : Nat)
  | blockquote
  | list (marker : UInt8) (start : Nat)
  | listItem (offset : Nat)
  | html (type : Nat) (closure : Option Span)
  | footnote (label : Bytes)
  /-- A shortcode that ends at the source offset `stop`. -/
  | shortcode (payload : Shortcode) (stop : Nat)
  | frontMatter (problem? : Bytes → Option Bytes)

namespace OpenBlock

def isParagraph : OpenBlock → Bool
  | paragraph => true
  | _ => false

def isList : OpenBlock → Bool
  | list .. => true
  | _ => false

end OpenBlock

/-- An open block with what it has collected. -/
structure Frame where
  block : OpenBlock
  blankBefore : Bool
  lines : List Span := []
  children : List Node := []

namespace Frame

def addChildren (f : Frame) (nodes : List Node) : Frame := { f with children := f.children ++ nodes }

def addLine (f : Frame) (s : Span) : Frame := { f with lines := f.lines ++ [s] }

end Frame

/-- Whether a line was blank where the block at some depth saw it. -/
structure LineStat where
  line : Nat
  level : Nat
  blank : Bool
  deriving Repr

/-- A look at a source from behind its end, which stops the program. -/
structure Overrun where
  start : Nat
  length : Nat
  deriving DecidableEq, Repr

def Overrun.message (o : Overrun) : Bytes :=
  utf8 "runtime error: slice bounds out of range [" ++ decimal o.start ++ utf8 ":" ++ decimal o.length ++ utf8 "]"

/-- What parsing blocks collects beside the tree. -/
structure BlockContext where
  references : List Reference := []
  headingIds : List Bytes := []
  /-- Closed footnotes in the order they were closed. -/
  footnotes : List Node := []
  /-- Offsets of backslashes that hide a pipe in a table cell after a backtick. -/
  hiddenPipes : List Nat := []
  /-- The front matter block, once there was one. -/
  frontMatter : Option Bytes := none
  /-- The set of markdown-bearing names that formatters share. -/
  names : MarkdownAttributes
  /-- Set while a line is known to begin a new item of an open list. -/
  atNewItem : Bool := false
  /-- Set after an empty list item that is followed by a blank line. -/
  emptyItem : Bool := false
  /-- The latest line statistics, most recent first. -/
  stats : List LineStat := []
  /-- Where reading stopped the program. -/
  overrun? : Option Overrun := none

namespace BlockContext

def blankBefore (ctx : BlockContext) (line level : Nat) : Bool :=
  ctx.stats.isEmpty || go (ctx.stats.drop level)
where
  go : List LineStat → Bool
    | [] => false
    | s :: rest =>
      if s.line + 1 == line && s.level ≤ level then s.blank
      else if s.line + 1 < line then false
      else go rest

end BlockContext

def trimLines (source : Bytes) (lines : List Span) : List Span :=
  let lines := lines.map (·.trimLeft source)
  match lines.getLast? with
  | none => []
  | some last => lines.dropLast ++ [last.trimRight source]

def settleParagraph (g : Grammar) (source : Bytes) (ctx : BlockContext) (lines : List Span)
    (blank : Bool) : BlockContext × Option (List Span) × List Node :=
  let text := textLines source lines
  let definitions := readDefinitions text (lines.length + 1) (TextCursor.ofLines text)
  let ctx := { ctx with
    references := definitions.foldl (fun refs d => addReference refs d.reference) ctx.references }
  match removeDefinitions lines 0 definitions with
  | [] => (ctx, none, [.mk { kind := .textBlock, blankBefore := blank } []])
  | lines =>
    match if g.tables then Table.find? source lines else none with
    | none => (ctx, some lines, [])
    | some found =>
      let ctx := { ctx with hiddenPipes := ctx.hiddenPipes ++ found.hiddenPipes }
      (ctx, if found.before.isEmpty then none else some found.before, [found.table])

def dropBlankLines (source : Bytes) (lines : List Span) : List Span :=
  (lines.reverse.dropWhile fun l => Bytes.isBlank (l.value source)).reverse

def isTight (items : List Node) : Bool :=
  items.all (fun item => (item.children.drop 1).all (!·.info.blankBefore)) &&
    (items.drop 1).all (!·.info.blankBefore)

def tightenItem (item : Node) : Node :=
  item.withChildren (item.children.map fun n =>
    match n.kind with
    | .paragraph => .mk { kind := .textBlock, lines := n.info.lines } n.children
    | _ => n)

def headingAttributes (g : Grammar) (source : Bytes) (ctx : BlockContext) (lines : List Span) :
    BlockContext × List (Bytes × Bytes) :=
  if g.headingIds then
    let text := (lines.getLast?.map (·.value source)).getD []
    let id := HeadingId.generate ctx.headingIds text
    ({ ctx with headingIds := ctx.headingIds ++ [id] }, [(utf8 "id", id)])
  else (ctx, [])

/-- Closes a block all of whose children are closed; returns what stands in its place. -/
def closeFrame (g : Grammar) (source : Bytes) (ctx : BlockContext) (f : Frame) :
    BlockContext × List Node :=
  let node (k : Kind) : Node :=
    .mk { kind := k, lines := f.lines, blankBefore := f.blankBefore } f.children
  match f.block with
  | .paragraph =>
    let (ctx, kept, after) := settleParagraph g source ctx f.lines f.blankBefore
    match kept with
    | none => (ctx, after)
    | some lines =>
      let info := { kind := .paragraph, lines := trimLines source lines,
                    blankBefore := f.blankBefore }
      (ctx, .mk info [] :: after)
  | .heading level =>
    let (ctx, attributes) := headingAttributes g source ctx f.lines
    let info := { kind := .heading level, lines := f.lines, blankBefore := f.blankBefore,
                  attributes := attributes }
    (ctx, [.mk info []])
  | .thematicBreak => (ctx, [node .thematicBreak])
  | .codeBlock =>
    let info := { kind := .codeBlock, lines := dropBlankLines source f.lines,
                  blankBefore := f.blankBefore }
    (ctx, [.mk info []])
  | .fencedCode info _ _ _ => (ctx, [node (.fencedCode info)])
  | .blockquote => (ctx, [node .blockquote])
  | .list marker start =>
    if isTight f.children then
      let info := { kind := .list marker start true, blankBefore := f.blankBefore }
      (ctx, [.mk info (f.children.map tightenItem)])
    else (ctx, [node (.list marker start false)])
  | .listItem offset => (ctx, [node (.listItem offset)])
  | .html type closure => (ctx, [node (.htmlBlock type closure)])
  | .footnote label =>
    let place := if ctx.footnotes.isEmpty then [Node.leaf .footnoteList []] else []
    ({ ctx with footnotes := ctx.footnotes ++ [node (.footnote label 0)] }, place)
  | .shortcode payload _ => (ctx, [node (.blockShortcode payload)])
  | .frontMatter problem? =>
    let text := spansValue source f.lines
    let ctx := { ctx with frontMatter := some text }
    match problem? text with
    | none => (ctx, [])
    | some p => (ctx, [node (.badFrontMatter p)])

def closeFrames (g : Grammar) (source : Bytes) (ctx : BlockContext) :
    List Frame → BlockContext × List Node
  | [] => (ctx, [])
  | f :: inner =>
    let (ctx, nodes) := closeFrames g source ctx inner
    closeFrame g source ctx (f.addChildren nodes)

end MarkdownTidy
