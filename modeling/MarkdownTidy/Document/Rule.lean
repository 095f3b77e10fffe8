import MarkdownTidy.Shortcode.Reader

/-! The rules of the grammar. Blocks and inline markup are each recognized by an ordered list of
rules; a rule is tried where one of its trigger bytes stands. -/

namespace MarkdownTidy

/-- A shortcode reader with the set of markdown-bearing names it asks: its own, or the set that
formatters share. -/
structure ShortcodeSource where
  reader : Shortcode.Reader
  own : Option MarkdownAttributes

inductive BlockRule where
  | setextHeading
  | thematicBreak
  | list
  | listItem
  | codeBlock
  | atxHeading
  | fencedCode
  | blockquote
  | html
  | footnote
  | paragraph
  | shortcode (source : ShortcodeSource)
  /-- Front matter on the first line; `problem?` says what is wrong with a block. -/
  | frontMatter (problem? : Bytes → Option Bytes)
  /-- A rule that never applies. -/
  | never (triggers : Bytes)

namespace BlockRule

def triggers? : BlockRule → Option Bytes
  | setextHeading => some (utf8 "-=")
  | thematicBreak => some (utf8 "-*_")
  | list | listItem => some (utf8 "-+*0123456789")
  | atxHeading => some (utf8 "#")
  | fencedCode => some (utf8 "~`")
  | blockquote => some (utf8 ">")
  | html => some (utf8 "<")
  | footnote => some (utf8 "[")
  | shortcode s => some [s.reader.trigger]
  | frontMatter _ => some (utf8 "-")
  | never t => some t
  | codeBlock | paragraph => none

def interruptsParagraph : BlockRule → Bool
  | codeBlock | paragraph | frontMatter _ | never _ => false
  | _ => true

def acceptsIndent : BlockRule → Bool
  | codeBlock => true
  | _ => false

end BlockRule

inductive InlineRule where
  | taskCheckBox
  | codeSpan
  | footnote
  | link
  | autoLink
  | rawHtml
  | emphasis
  | strikethrough
  | linkify
  | alert
  | attributeList
  | shortcode (source : ShortcodeSource)
  /-- A rule that never applies. -/
  | never (triggers : Bytes)

/-- The bytes an inline rule is tried on. A space also stands for the front of a line. -/
def InlineRule.triggers : InlineRule → Bytes
  | taskCheckBox => utf8 "["
  | codeSpan => utf8 "`"
  | footnote => utf8 "!["
  | link => utf8 "![]"
  | autoLink | rawHtml => utf8 "<"
  | emphasis => utf8 "*_"
  | strikethrough => utf8 "~"
  | linkify => utf8 " *_~("
  | alert => utf8 "["
  | attributeList => utf8 "\x7b"
  | shortcode s => [s.reader.trigger]
  | never t => t

/-- Everything parsing depends on. Rules are listed in the order they are tried. -/
structure Grammar where
  block : List BlockRule
  inline : List InlineRule
  /-- Whether paragraphs are searched for tables. -/
  tables : Bool
  /-- Whether headings get an identifier made from their text. -/
  headingIds : Bool

def Grammar.blockRulesFor (g : Grammar) (b : UInt8) : List BlockRule :=
  g.block.filter (fun r => (r.triggers?.map (·.contains b)).getD false) ++
    g.block.filter (·.triggers?.isNone)

def Grammar.inlineRulesFor (g : Grammar) (b : UInt8) : List InlineRule :=
  g.inline.filter (·.triggers.contains b)

end MarkdownTidy
