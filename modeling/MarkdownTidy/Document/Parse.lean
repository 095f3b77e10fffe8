import MarkdownTidy.Document.Blocks
import MarkdownTidy.Document.Footnotes
import MarkdownTidy.Document.Inline.Parse

/-! Parsing a source into a document tree: first the blocks, then the text inside them. -/

namespace MarkdownTidy

/-- What inline content depends on beside the block itself. -/
structure TextScope where
  grammar : Grammar
  source : Bytes
  references : List Reference

mutual

def readText (t : TextScope) (holder : Kind) (first : Bool) (m : InlineMemory) :
    Node → Node × InlineMemory
  | .mk info children =>
    let (children, m) := readTexts t info.kind true m children
    if info.kind.isVerbatim || info.lines.isEmpty then (.mk info children, m)
    else
      let scope : InlineScope :=
        ⟨t.grammar, t.source, textLines t.source info.lines, t.references, holder, first⟩
      let (inlines, m) := Inline.read scope m
      (.mk info (children ++ inlines), m)

def readTexts (t : TextScope) (holder : Kind) (first : Bool) (m : InlineMemory) :
    List Node → List Node × InlineMemory
  | [] => ([], m)
  | n :: ns =>
    let (n, m) := readText t holder first m n
    let (ns, m) := readTexts t holder false m ns
    (n :: ns, m)

end

/-- A document as it was read, before footnotes are put in order. -/
structure RawDocument where
  document : Node
  footnotes : List Node
  memory : InlineMemory
  hiddenPipes : List Nat
  frontMatter : Option Bytes
  /-- Where reading stopped the program; there is no document then. -/
  overrun? : Option Overrun

def readDocument (g : Grammar) (names : MarkdownAttributes) (source : Bytes) : RawDocument :=
  let (blocks, ctx) := readBlocks g names source
  let labels := ctx.footnotes.map fun n =>
    match n.kind with
    | .footnote label _ => (label, 0)
    | _ => ([], 0)
  let (children, memory) :=
    readTexts ⟨g, source, ctx.references⟩ .document true ⟨ctx.names, labels, []⟩
      (Footnotes.fillNodes ctx.footnotes blocks)
  ⟨.leaf .document children, ctx.footnotes, memory, ctx.hiddenPipes, ctx.frontMatter, ctx.overrun?⟩

def splitAtPipes (n : Node) : List Nat → List Node
  | [] => [n]
  | p :: ps =>
    match n.kind with
    | .text span soft hard raw =>
      if span.start ≤ p && p < span.stop then
        .ofRawText { span with stop := p } :: splitAtPipes (.ofRawText { span with start := p + 1 }) ps
      else splitAtPipes (.leaf (.text span soft hard raw) n.children) ps
    | _ => [n]

mutual

def unhidePipes (pipes : List Nat) (inCell : Bool) : Node → Node
  | .mk info children =>
    match info.kind, inCell with
    | .codeSpan, true => .mk info (children.flatMap fun n => splitAtPipes n pipes)
    | .tableCell _, _ => .mk info (unhidePipesIn pipes true children)
    | _, _ => .mk info (unhidePipesIn pipes inCell children)

def unhidePipesIn (pipes : List Nat) (inCell : Bool) : List Node → List Node
  | [] => []
  | n :: ns => unhidePipes pipes inCell n :: unhidePipesIn pipes inCell ns

end

namespace RawDocument

def resolvePipes (r : RawDocument) : RawDocument :=
  if r.hiddenPipes.isEmpty then r
  else { r with document := unhidePipes r.hiddenPipes false r.document }

def placeFootnotes (r : RawDocument) : Node :=
  Footnotes.place r.footnotes (r.memory.footnotes.map (·.2)) r.memory.links r.document

def finish (r : RawDocument) : Node × MarkdownAttributes :=
  let r := r.resolvePipes
  (r.placeFootnotes, r.memory.names)

end RawDocument

def parseDocument (g : Grammar) (names : MarkdownAttributes) (source : Bytes) :
    Node × MarkdownAttributes :=
  (readDocument g names source).finish

end MarkdownTidy
