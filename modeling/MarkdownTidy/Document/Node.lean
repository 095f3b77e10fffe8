import MarkdownTidy.Document.Span
import MarkdownTidy.Shortcode.Basic

/-! The document tree. Block nodes keep the source spans of their own lines; text stays in the
source and is referred to by span. -/

namespace MarkdownTidy

inductive Alignment where
  | none | left | right | center
  deriving DecidableEq, Repr, Inhabited

/-- How a media file is played. -/
inductive Medium where
  | audio | video
  deriving DecidableEq, Repr, Inhabited

inductive Kind where
  | document
  | paragraph
  | textBlock
  | heading (level : Nat)
  | thematicBreak
  | codeBlock
  | fencedCode (info : Option Span)
  | blockquote
  | list (marker : UInt8) (start : Nat) (tight : Bool)
  | listItem (offset : Nat)
  | htmlBlock (type : Nat) (closure : Option Span)
  | table (alignments : List Alignment)
  | tableHeader
  | tableRow
  | tableCell (alignment : Alignment)
  | footnoteList
  | footnote (label : Bytes) (index : Nat)
  /-- Front matter that could not be read; its lines are shown as text. -/
  | badFrontMatter (problem : Bytes)
  | blockShortcode (payload : Shortcode)
  | media (destination : Bytes) (extension : Bytes) (medium : Medium)
  | text (span : Span) (soft hard raw : Bool)
  | string (value : Bytes)
  | codeSpan
  | emphasis (level : Nat)
  | strikethrough
  | link (destination : Bytes) (title : Option Bytes)
  | image (destination : Bytes) (title : Option Bytes)
  | autoLink (email : Bool) (scheme : Bytes) (label : Span)
  | rawHtml (spans : List Span)
  | taskCheckBox (checked : Bool)
  | footnoteLink (index references position : Nat)
  | footnoteBacklink (index references position : Nat)
  | shortcode (payload : Shortcode)
  | alertFlag (name : Bytes)
  | attributeList (ids classes others : List Bytes)
  deriving DecidableEq, Repr, Inhabited

namespace Kind

def isBlock : Kind → Bool
  | paragraph | textBlock | heading _ | thematicBreak | codeBlock | fencedCode _ | blockquote
  | list .. | listItem _ | htmlBlock .. | table _ | tableHeader | tableRow | tableCell _
  | footnoteList | footnote .. | badFrontMatter _ | blockShortcode _ | media .. => true
  | _ => false

def isVerbatim : Kind → Bool
  | codeBlock | fencedCode _ | htmlBlock .. => true
  | _ => false

/-- The name a kind goes by in dumps and in the visitor registry. -/
def name : Kind → String
  | document => "Document"
  | paragraph => "Paragraph"
  | textBlock => "TextBlock"
  | heading _ => "Heading"
  | thematicBreak => "ThematicBreak"
  | codeBlock => "CodeBlock"
  | fencedCode _ => "FencedCodeBlock"
  | blockquote => "Blockquote"
  | list .. => "List"
  | listItem _ => "ListItem"
  | htmlBlock .. => "HTMLBlock"
  | table _ => "Table"
  | tableHeader => "TableHeader"
  | tableRow => "TableRow"
  | tableCell _ => "TableCell"
  | footnoteList => "FootnoteList"
  | footnote .. => "Footnote"
  | badFrontMatter _ => "TextBlock"
  | blockShortcode _ => "Shortcode"
  | media .. => "Media"
  | text .. => "Text"
  | string _ => "String"
  | codeSpan => "CodeSpan"
  | emphasis _ => "Emphasis"
  | strikethrough => "Strikethrough"
  | link .. => "Link"
  | image .. => "Image"
  | autoLink .. => "AutoLink"
  | rawHtml _ => "RawHTML"
  | taskCheckBox _ => "TaskCheckBox"
  | footnoteLink .. => "FootnoteLink"
  | footnoteBacklink .. => "FootnoteBacklink"
  | shortcode _ => "Shortcode"
  | alertFlag _ => "AlertFlag"
  | attributeList .. => "AttrList"

end Kind

/-- What a node says about itself, its children aside. -/
structure Info where
  kind : Kind
  lines : List Span := []
  /-- Whether a blank line stood before the block. -/
  blankBefore : Bool := false
  attributes : List (Bytes × Bytes) := []
  deriving DecidableEq, Repr, Inhabited

inductive Node where
  | mk (info : Info) (children : List Node)
  deriving Repr

namespace Node

instance : Inhabited Node := ⟨.mk ⟨.document, [], false, []⟩ []⟩

def info : Node → Info
  | mk i _ => i

def children : Node → List Node
  | mk _ c => c

def kind (n : Node) : Kind := n.info.kind

def leaf (k : Kind) (children : List Node) : Node := .mk { kind := k } children

def ofText (span : Span) : Node := leaf (.text span false false false) []

def ofRawText (span : Span) : Node := leaf (.text span false false true) []

def isBulletList (n : Node) : Bool :=
  match n.kind with
  | .list marker .. => marker != byte '.' && marker != byte ')'
  | _ => false

def withChildren (n : Node) (c : List Node) : Node := .mk n.info c

def withKind (n : Node) (k : Kind) : Node := .mk { n.info with kind := k } n.children

def attribute? (n : Node) (name : Bytes) : Option Bytes :=
  (n.info.attributes.find? (·.1 == name)).map (·.2)

def setAttribute (n : Node) (name value : Bytes) : Node :=
  let attrs := n.info.attributes
  let attrs :=
    if attrs.any (·.1 == name) then attrs.map fun a => if a.1 == name then (name, value) else a
    else attrs ++ [(name, value)]
  .mk { n.info with attributes := attrs } n.children

end Node

end MarkdownTidy
