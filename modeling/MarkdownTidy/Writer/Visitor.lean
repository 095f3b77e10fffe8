import MarkdownTidy.Shortcode.Printer
import MarkdownTidy.Text.Letter
import MarkdownTidy.Writer.Code
import MarkdownTidy.Writer.Layout
import MarkdownTidy.Writer.Link
import MarkdownTidy.Writer.Style

/-! Writing a document tree as markdown. Every kind of node is written by a visitor; a registry names
the visitors of kinds that are written in another way than the usual. A kind without a visitor is
written as its children. -/

namespace MarkdownTidy

/-- How nodes of a registered kind are written. -/
inductive Visitor where
  /-- Always the same text. -/
  | text (t : Bytes)
  /-- Fails with a message. -/
  | error (message : Bytes)
  /-- The children as blocks, between two copies of a text. -/
  | blocks (t : Bytes)
  /-- The children as inline content, between two copies of a text. -/
  | inlines (t : Bytes)
  /-- The children as a list item behind a marker. -/
  | item (marker : Bytes)
  | shortcode
  | alertFlag
  | attributeList
  deriving DecidableEq, Repr

abbrev VisitorRegistry := List (String × Visitor)

namespace Writer

abbrev Outcome := Except Bytes Bytes

/-- A node with what became of it and of its children. -/
inductive Written where
  | mk (own : Outcome) (tight : Bool) (children : List Written)

namespace Written

def own : Written → Outcome
  | mk o _ _ => o

def tight : Written → Bool
  | mk _ t _ => t

def children : Written → List Written
  | mk _ _ c => c

end Written

/-- Children one after the other. -/
def joinInlines : List Written → Outcome
  | [] => .ok []
  | w :: ws =>
    match w.own with
    | .error e => .error e
    | .ok s =>
      match joinInlines ws with
      | .error e => .error e
      | .ok rest => .ok (s ++ rest)

def blockParts : List Written → Except Bytes (List Bytes)
  | [] => .ok []
  | w :: ws =>
    match w.own with
    | .error e => .error e
    | .ok s =>
      match blockParts ws with
      | .error e => .error e
      | .ok rest => .ok (if (trimNewlines s).isEmpty then rest else trimNewlines s :: rest)

def joinBlocks (tight : Bool) (children : List Written) : Outcome :=
  (blockParts children).map (Bytes.join (if tight then utf8 "\n" else utf8 "\n\n"))

def listItem (marker content : Bytes) : Bytes :=
  if content.isEmpty then marker
  else prefixLines content (marker ++ utf8 " ") (Bytes.spaces (marker.length + 1))

/-- Where a node stands. -/
structure Setting where
  parent : Kind
  /-- The siblings before it, nearest first. -/
  before : List Node
  /-- The sibling after it. -/
  next : Option Node

/-- What writing a document depends on. -/
structure Environment where
  style : Style
  registry : VisitorRegistry
  source : Bytes
  /-- The labels of footnotes by number. -/
  labels : List (Nat × Bytes)

/-- Text as it appears in the source. Hard breaks are written with a backslash. -/
def text (source : Bytes) (span : Span) (soft hard : Bool) : Bytes :=
  let s := span.value source
  if hard then
    let s := Bytes.trimRight isPadding s
    let s := if Bytes.endsWith s (utf8 "\\") && !Bytes.endsWith s (utf8 "\\\\") then s.dropLast else s
    s ++ utf8 "\\\n"
  else if soft then Bytes.trimRight isPadding s ++ utf8 "\n"
  else s

/-- Whether a word character touches the node, so that an underscore would open no emphasis. -/
def isIntraword (source : Bytes) (at_ : Setting) : Bool :=
  let touchesBefore :=
    match at_.before with
    | n :: _ =>
      match n.kind with
      | .text span soft hard _ =>
        !soft && !hard && Text.isWordCharacter (Utf8.last (span.value source))
      | _ => false
    | [] => false
  let touchesAfter :=
    match at_.next with
    | some n =>
      match n.kind with
      | .text span .. => Text.isWordCharacter (Utf8.decode (span.value source)).1
      | _ => false
    | none => false
  touchesBefore || touchesAfter

def bullet (style : Style) (before : List Node) : Bytes :=
  if (before.takeWhile Node.isBulletList).length % 2 == 1 then style.alternateBullet else style.bullet

def items (marker : Nat → Bytes) : Nat → List Written → Except Bytes (List Bytes)
  | _, [] => .ok []
  | i, w :: ws => do
    let s ← joinBlocks w.tight w.children
    let rest ← items marker (i + 1) ws
    return listItem (marker i) s :: rest

def list (env : Environment) (at_ : Setting) (mark : UInt8) (start : Nat) (tight : Bool)
    (children : List Written) : Outcome := do
  let ordered := mark == byte '.' || mark == byte ')'
  let marker (i : Nat) : Bytes :=
    if ordered then
      decimal (if env.style.incrementOrdered then start + i else start) ++ [mark]
    else bullet env.style at_.before
  return Bytes.join (if tight then utf8 "\n" else utf8 "\n\n") (← items marker 0 children)

def tableRows : List Written → Except Bytes (List (List Bytes))
  | [] => .ok []
  | row :: rows => do
    let cells ← row.children.mapM fun cell => joinInlines cell.children
    let rest ← tableRows rows
    return cells.map onOneLine :: rest

def wrap (marker : Bytes) (o : Outcome) : Outcome := o.map fun s => marker ++ s ++ marker

def attributeList (ids classes others : List Bytes) : Bytes :=
  let fields := ids.map (byte '#' :: ·) ++ classes.map (byte '.' :: ·) ++ others
  if fields.isEmpty then utf8 "\x7b:\x7d"
  else utf8 "\x7b: " ++ Bytes.join (utf8 " ") fields ++ utf8 "\x7d"

/-- The usual way to write a node, given its children as inline content and as blocks. -/
def usual (env : Environment) (at_ : Setting) (node : Node) (children : List Written) : Outcome :=
  let inlines := joinInlines children
  let blocks := joinBlocks false children
  match node.kind with
  | .document | .footnoteList => blocks
  | .paragraph | .textBlock | .badFrontMatter _ => inlines.map Text.trimSpace
  | .heading level =>
    inlines.map fun s =>
      let marker := List.replicate level (byte '#')
      let s := onOneLine s
      if s.isEmpty then marker else marker ++ utf8 " " ++ s
  | .thematicBreak =>
    -- A leading `---` would read back as front matter.
    if at_.parent == .document && at_.before.isEmpty && env.style.thematicBreak == utf8 "---" then
      .ok (utf8 "***")
    else .ok env.style.thematicBreak
  | .codeBlock => .ok (codeBlock (linesValue env.source node.info.lines) [])
  | .fencedCode info =>
    let info := (info.map fun s => Text.trimSpace (s.value env.source)).getD []
    .ok (codeBlock (linesValue env.source node.info.lines) info)
  | .blockquote =>
    blocks.map fun s => if s.isEmpty then utf8 ">" else prefixLines s (utf8 "> ") (utf8 "> ")
  | .htmlBlock _ closure =>
    let s := linesValue env.source node.info.lines
    .ok (trimNewlines (s ++ (closure.map (·.value env.source)).getD []))
  | .list mark start tight => list env at_ mark start tight children
  | .listItem _ =>
    let tight :=
      match at_.parent with
      | .list _ _ t => t
      | _ => false
    (joinBlocks tight children).map (listItem env.style.bullet)
  | .footnote label _ =>
    blocks.map fun s =>
      let mark := utf8 "[^" ++ label ++ utf8 "]:"
      if s.isEmpty then mark else prefixLines s (mark ++ utf8 " ") (utf8 "    ")
  | .table alignments => (tableRows children).map (table alignments)
  | .text span soft hard _ => .ok (text env.source span soft hard)
  | .string value => .ok value
  | .codeSpan => .ok (codeSpan (node.children.flatMap (codeText env.source)))
  | .emphasis level =>
    let marker := if level ≥ 2 then env.style.strong else env.style.emphasis
    let marker :=
      if marker.head? == some (byte '_') && isIntraword env.source at_ then
        List.replicate marker.length (byte '*')
      else marker
    wrap marker inlines
  | .strikethrough => wrap (utf8 "~~") inlines
  | .link d title => inlines.map fun s => utf8 "[" ++ s ++ utf8 "]" ++ linkTail d (title.getD [])
  | .image d title => inlines.map fun s => utf8 "![" ++ s ++ utf8 "]" ++ linkTail d (title.getD [])
  | .autoLink _ _ label => .ok (utf8 "<" ++ label.value env.source ++ utf8 ">")
  | .rawHtml spans => .ok (spansValue env.source spans)
  | .taskCheckBox checked => .ok (if checked then utf8 "[x] " else utf8 "[ ] ")
  | .footnoteLink index .. =>
    match env.labels.find? (·.1 == index) with
    | some (_, label) => .ok (utf8 "[^" ++ label ++ utf8 "]")
    | none => .ok []
  | .footnoteBacklink .. => .ok []
  | .shortcode _ | .alertFlag _ | .attributeList .. => inlines
  | .tableHeader | .tableRow | .tableCell _ | .blockShortcode _ | .media .. => blocks

/-- A node written by a registered visitor. -/
def visit (v : Visitor) (tight : Bool) (node : Node) (children : List Written) : Outcome :=
  match v with
  | .text t => .ok t
  | .error m => .error m
  | .blocks t => wrap t (joinBlocks tight children)
  | .inlines t => wrap t (joinInlines children)
  | .item marker => (joinBlocks tight children).map (listItem marker)
  | .shortcode =>
    match node.kind with
    | .shortcode sc | .blockShortcode sc => .ok sc.print
    | _ => .ok []
  | .alertFlag =>
    match node.kind with
    | .alertFlag name => .ok (utf8 "[!" ++ name ++ utf8 "]")
    | _ => .ok []
  | .attributeList =>
    match node.kind with
    | .attributeList ids classes others => .ok (attributeList ids classes others)
    | _ => .ok []

mutual

def writeNode (env : Environment) (at_ : Setting) : Node → Written
  | .mk info children =>
    let written := writeNodes env info.kind [] children
    let tight :=
      match info.kind, at_.parent with
      | .listItem _, .list _ _ t => t
      | _, _ => false
    let node := Node.mk info children
    let own :=
      match env.registry.find? (·.1 == info.kind.name) with
      | some (_, v) => visit v tight node written
      | none => usual env at_ node written
    .mk own tight written

def writeNodes (env : Environment) (parent : Kind) (before : List Node) : List Node → List Written
  | [] => []
  | n :: ns =>
    writeNode env ⟨parent, before, ns.head?⟩ n :: writeNodes env parent (n :: before) ns

end

mutual

def labelsIn : Node → List (Nat × Bytes)
  | .mk info children =>
    (match info.kind with
      | .footnote label index => [(index, label)]
      | _ => []) ++ labelsAmong children

def labelsAmong : List Node → List (Nat × Bytes)
  | [] => []
  | n :: ns => labelsIn n ++ labelsAmong ns

end

def write (style : Style) (registry : VisitorRegistry) (source : Bytes) (doc : Node) : Outcome :=
  let env : Environment := ⟨style, registry, source, labelsIn doc⟩
  (writeNode env ⟨.document, [], none⟩ doc).own.map fun s =>
    let s := trimNewlines s
    if s.isEmpty then [] else s ++ [Bytes.newline]

end Writer

end MarkdownTidy
