import MarkdownTidy.Document.Parse
import MarkdownTidy.Document.Transform
import MarkdownTidy.Html.Render
import MarkdownTidy.Pipeline.Basic

/-! Converting markdown to HTML with a choice of extensions. -/

namespace MarkdownTidy

inductive Extension where
  | shortcodes (source : ShortcodeSource) (inline : Bool)
  | alerts
  | attributeList
  | media
  | linkRewrite
  /-- Tables, strikethrough, task lists and bare links. -/
  | tables
  | footnotes
  /-- Front matter; the function says what is wrong with a block. -/
  | frontMatter (problem? : Bytes → Option Bytes)

namespace Extension

def shortcodePriority (trigger : UInt8) : Int :=
  if (utf8 "[]!").contains trigger then -100
  else if trigger == byte '`' then 50
  else if trigger == byte '<' then 250
  else 350

def inlineRules : Extension → List (Prioritized InlineRule)
  | shortcodes s true => [⟨shortcodePriority s.reader.trigger, .shortcode s⟩]
  | alerts => [⟨150, .alert⟩]
  | attributeList => [⟨2000, .attributeList⟩]
  | tables => [⟨999, .linkify⟩, ⟨500, .strikethrough⟩, ⟨0, .taskCheckBox⟩]
  | footnotes => [⟨101, .footnote⟩]
  | _ => []

def blockRules : Extension → List (Prioritized BlockRule)
  | shortcodes s false => [⟨850, .shortcode s⟩]
  | footnotes => [⟨999, .footnote⟩]
  | frontMatter problem? => [⟨0, .frontMatter problem?⟩]
  | _ => []

def hasTables : Extension → Bool
  | tables => true
  | _ => false

def transform (n : Node) : Extension → Node
  | alerts => Transform.applyAlerts n
  | attributeList => Transform.applyAttributeLists n
  | frontMatter _ => Transform.showProblems n
  | _ => n

end Extension

structure Converter where
  extensions : List Extension
  headingIds : Bool := false
  options : Html.RenderOptions := {}

/-- A converted document: its tree, the messages logged, the shared names afterwards, its front matter, and
where reading stopped the program. -/
structure Converted where
  document : Node
  log : List Bytes
  names : MarkdownAttributes
  frontMatter : Option Bytes
  overrun? : Option Overrun

namespace Converter

def plainInline : List (Prioritized InlineRule) :=
  [⟨100, .codeSpan⟩, ⟨200, .link⟩, ⟨300, .autoLink⟩, ⟨400, .rawHtml⟩, ⟨500, .emphasis⟩]

def plainBlock : List (Prioritized BlockRule) :=
  [⟨100, .setextHeading⟩, ⟨200, .thematicBreak⟩, ⟨300, .list⟩, ⟨400, .listItem⟩, ⟨500, .codeBlock⟩,
    ⟨600, .atxHeading⟩, ⟨700, .fencedCode⟩, ⟨800, .blockquote⟩, ⟨900, .html⟩, ⟨1000, .paragraph⟩]

def grammar (c : Converter) : Grammar where
  block := Prioritized.inOrder (plainBlock ++ c.extensions.flatMap (·.blockRules))
  inline := Prioritized.inOrder (plainInline ++ c.extensions.flatMap (·.inlineRules))
  tables := c.extensions.any (·.hasTables)
  headingIds := c.headingIds

def rewriteLinks (c : Converter) (n : Node) : Node × List Bytes :=
  c.extensions.foldl (fun (n, log) e =>
    match e with
    | .linkRewrite =>
      let (n, more) := Transform.rewriteLinks n
      (n, log ++ more)
    | _ => (n, log)) (n, [])

def embedsMedia (c : Converter) : Bool :=
  c.extensions.any fun e =>
    match e with
    | .media => true
    | _ => false

/-- Reads a document and applies the extensions to it. Links are rewritten before footnotes are put
in order, and media files are embedded last. -/
def read (c : Converter) (names : MarkdownAttributes) (source : Bytes) : Converted :=
  let raw := (readDocument c.grammar names source).resolvePipes
  let (document, log) := c.rewriteLinks raw.document
  let document := { raw with document := document }.placeFootnotes
  let document := c.extensions.foldl Extension.transform document
  let document := if c.embedsMedia then Transform.embedMedia document else document
  ⟨document, log, raw.memory.names, raw.frontMatter, raw.overrun?⟩

def render (c : Converter) (source : Bytes) (document : Node) : Bytes :=
  Html.render c.options source document

end Converter

end MarkdownTidy
