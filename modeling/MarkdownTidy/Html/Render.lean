import MarkdownTidy.Document.Node
import MarkdownTidy.Html.Escape
import MarkdownTidy.Html.Markup
import MarkdownTidy.Shortcode.Printer
import MarkdownTidy.Text.Case

/-! Rendering a document tree as HTML. -/

namespace MarkdownTidy.Html

structure RenderOptions where
  /-- Whether raw HTML and dangerous destinations are kept. -/
  raw : Bool := false
  /-- Whether empty elements are closed by a slash. -/
  xhtml : Bool := false
  deriving DecidableEq, Repr

def setAttributes (attrs : List (Bytes × Bytes)) : Bytes :=
  attrs.flatMap fun (name, value) =>
    utf8 " " ++ name ++ utf8 "=\"" ++ markup value ++ utf8 "\""

def openTag (tag : String) (attrs : List (Bytes × Bytes)) : Bytes :=
  utf8 "<" ++ utf8 tag ++ setAttributes attrs ++ utf8 ">"

def closeTag (tag : String) : Bytes := utf8 "</" ++ utf8 tag ++ utf8 ">"

def emptyEnd (o : RenderOptions) : Bytes := if o.xhtml then utf8 " />" else utf8 ">"

def omitted : Bytes := utf8 "<!-- raw HTML omitted -->"

def newline : Bytes := utf8 "\n"

def plainText (source : Bytes) : Kind → Bytes
  | .text span .. => span.value source
  | .string value => value
  | .autoLink _ _ label => label.value source
  | _ => []

mutual

/-- The text inside an image, for its description. -/
def altText (source : Bytes) : Node → Bytes
  | .mk info [] =>
    match info.kind with
    | .string value => value
    | .text span soft _ _ => markup (span.value source) ++ (if soft then newline else [])
    | kind => markup (plainText source kind)
  | .mk _ (c :: cs) => altTexts source (c :: cs)

def altTexts (source : Bytes) : List Node → Bytes
  | [] => []
  | n :: ns => altText source n ++ altTexts source ns

end

def codeText (source : Bytes) (children : List Node) : Bytes :=
  children.flatMap fun n =>
    let v := plainText source n.kind
    if v.getLast? == some Bytes.newline then markup v.dropLast ++ utf8 " " else markup v

def codeLines (source : Bytes) (lines : List Span) : Bytes :=
  markup (lines.flatMap (·.value source))

def language (info : Bytes) : Bytes := info.takeWhile (· != byte ' ')

def textNode (o : RenderOptions) (value : Bytes) (soft hard raw : Bool) : Bytes :=
  if raw then markup value
  else
    text value ++
      (if hard then utf8 "<br" ++ emptyEnd o ++ newline else if soft then newline else [])

def linkAttributes (o : RenderOptions) (name : String) (d : Bytes) : Bytes :=
  utf8 " " ++ utf8 name ++ utf8 "=\"" ++
    (if o.raw || !isDangerousUrl d then destination d else []) ++ utf8 "\""

def titleAttribute (title : Option Bytes) : Bytes :=
  (title.map fun t => utf8 " title=\"" ++ text t ++ utf8 "\"").getD []

def autoLink (email : Bool) (scheme label : Bytes) (attrs : List (Bytes × Bytes)) : Bytes :=
  let url := if scheme.isEmpty then label else scheme ++ utf8 "://" ++ label
  let mail := email && !Bytes.startsWith (Bytes.lowerAscii url) (utf8 "mailto:")
  utf8 "<a href=\"" ++ (if mail then utf8 "mailto:" else []) ++ markup (escapeUrl url) ++ utf8 "\"" ++
    setAttributes attrs ++ utf8 ">" ++ markup label ++ utf8 "</a>"

def shortcode (tag : String) (sc : Shortcode) : Bytes :=
  utf8 "<" ++ utf8 tag ++ utf8 " class=\"shortcode\" data-shortcode=\"" ++ escape sc.identifier ++
    utf8 "\"" ++
    (sc.attributes.flatMap fun a =>
      utf8 " data-" ++ escape (Text.lower a.name) ++ utf8 "=\"" ++ escape a.value ++ utf8 "\"") ++
    utf8 ">" ++ escape sc.print ++ closeTag tag

/-- A player for a media file. -/
def media (d extension : Bytes) (medium : Medium) : Bytes :=
  let tag :=
    match medium with
    | .audio => utf8 "audio"
    | .video => utf8 "video"
  utf8 "<" ++ tag ++ utf8 " controls><source src=\"" ++ escape d ++ utf8 "\" type=\"" ++ tag ++
    utf8 "/" ++ extension ++ utf8 "\" /></" ++ tag ++ utf8 ">"

def referenceId (index position : Nat) : Bytes :=
  utf8 "fnref" ++ (if position > 0 then decimal position else []) ++ utf8 ":" ++ decimal index

def footnoteLink (index position : Nat) : Bytes :=
  utf8 "<sup id=\"" ++ referenceId index position ++ utf8 "\"><a href=\"#fn:" ++ decimal index ++
    utf8 "\" class=\"footnote-ref\" role=\"doc-noteref\">" ++ decimal index ++ utf8 "</a></sup>"

def footnoteBacklink (index position : Nat) : Bytes :=
  utf8 "&#160;<a href=\"#" ++ referenceId index position ++
    utf8 "\" class=\"footnote-backref\" role=\"doc-backlink\">&#x21a9;&#xfe0e;</a>"

def cellAttributes (o : RenderOptions) (a : Alignment) : Bytes :=
  let name? : Option String :=
    match a with
    | .none => none
    | .left => some "left"
    | .right => some "right"
    | .center => some "center"
  match name? with
  | none => []
  | some name =>
    if o.xhtml then utf8 " align=\"" ++ utf8 name ++ utf8 "\""
    else utf8 " style=\"text-align:" ++ utf8 name ++ utf8 "\""

/-- Where a node stands: the kind of its parent, and whether a sibling follows. -/
structure Place where
  parent : Kind
  followed : Bool

/-- A node as HTML, given its children as HTML. -/
def element (o : RenderOptions) (source : Bytes) (at_ : Place) (info : Info) (children : List Node)
    (inner : Bytes) : Bytes :=
  let attrs := info.attributes
  let wrap (tag : String) : Bytes := openTag tag attrs ++ inner ++ closeTag tag
  match info.kind with
  | .document | .alertFlag _ | .attributeList .. => inner
  | .textBlock | .badFrontMatter _ =>
    inner ++ (if at_.followed && !children.isEmpty then newline else [])
  | .paragraph => wrap "p" ++ newline
  | .heading level => wrap ("h" ++ toString level) ++ newline
  | .thematicBreak => utf8 "<hr" ++ setAttributes attrs ++ emptyEnd o ++ newline
  | .codeBlock => utf8 "<pre><code>" ++ codeLines source info.lines ++ utf8 "</code></pre>\n"
  | .fencedCode fence =>
    let name := (fence.map fun s => language (s.value source)).getD []
    utf8 "<pre><code" ++
      (if name.isEmpty then [] else utf8 " class=\"language-" ++ text name ++ utf8 "\"") ++
      utf8 ">" ++ codeLines source info.lines ++ utf8 "</code></pre>\n"
  | .blockquote =>
    openTag "blockquote" attrs ++ (if attrs.isEmpty then newline else []) ++ inner ++
      utf8 "</blockquote>\n"
  | .htmlBlock _ closure =>
    if o.raw then
      withoutZero ((info.lines ++ closure.toList).flatMap (·.value source))
    else omitted ++ newline ++ (if closure.isSome then omitted ++ newline else [])
  | .list mark start _ =>
    let ordered := mark == byte '.' || mark == byte ')'
    let tag := if ordered then "ol" else "ul"
    utf8 "<" ++ utf8 tag ++
      (if ordered && start != 1 then utf8 " start=\"" ++ decimal start ++ utf8 "\"" else []) ++
      setAttributes attrs ++ utf8 ">\n" ++ inner ++ closeTag tag ++ newline
  | .listItem _ =>
    let breaks : Bool :=
      match children.head? with
      | none => false
      | some c => c.kind != .textBlock
    openTag "li" attrs ++ (if breaks then newline else []) ++ inner ++ utf8 "</li>\n"
  | .table _ => openTag "table" attrs ++ newline ++ inner ++ utf8 "</table>\n"
  | .tableHeader =>
    utf8 "<thead>\n<tr>\n" ++ inner ++ utf8 "</tr>\n</thead>\n" ++
      (if at_.followed then utf8 "<tbody>\n" else [])
  | .tableRow =>
    utf8 "<tr>\n" ++ inner ++ utf8 "</tr>\n" ++ (if at_.followed then [] else utf8 "</tbody>\n")
  | .tableCell a =>
    let tag := if at_.parent == .tableHeader then "th" else "td"
    utf8 "<" ++ utf8 tag ++ cellAttributes o a ++ utf8 ">" ++ inner ++ closeTag tag ++ newline
  | .footnoteList =>
    utf8 "<div class=\"footnotes\" role=\"doc-endnotes\">\n<hr" ++ emptyEnd o ++ utf8 "\n<ol>\n" ++
      inner ++ utf8 "</ol>\n</div>\n"
  | .footnote _ index =>
    utf8 "<li id=\"fn:" ++ decimal index ++ utf8 "\">\n" ++ inner ++ utf8 "</li>\n"
  | .blockShortcode sc => shortcode "div" sc ++ newline
  | .media d extension medium => media d extension medium
  | .text span soft hard raw => textNode o (span.value source) soft hard raw
  | .string value => value
  | .codeSpan => openTag "code" attrs ++ codeText source children ++ closeTag "code"
  | .emphasis level => wrap (if level == 2 then "strong" else "em")
  | .strikethrough => wrap "del"
  | .link d title =>
    utf8 "<a" ++ linkAttributes o "href" d ++ titleAttribute title ++ setAttributes attrs ++
      utf8 ">" ++ inner ++ utf8 "</a>"
  | .image d title =>
    utf8 "<img" ++ linkAttributes o "src" d ++ utf8 " alt=\"" ++ altTexts source children ++
      utf8 "\"" ++ titleAttribute title ++ setAttributes attrs ++ emptyEnd o
  | .autoLink email scheme label => autoLink email scheme (label.value source) attrs
  | .rawHtml spans => if o.raw then spans.flatMap (·.value source) else omitted
  | .taskCheckBox checked =>
    utf8 "<input " ++ (if checked then utf8 "checked=\"\" " else []) ++
      utf8 "disabled=\"\" type=\"checkbox\"" ++ emptyEnd o ++ utf8 " "
  | .footnoteLink index _ position => footnoteLink index position
  | .footnoteBacklink index _ position => footnoteBacklink index position
  | .shortcode sc => shortcode "span" sc

mutual

def renderNode (o : RenderOptions) (source : Bytes) (at_ : Place) : Node → Bytes
  | .mk info children =>
    element o source at_ info children (renderNodes o source info.kind children)

def renderNodes (o : RenderOptions) (source : Bytes) (parent : Kind) : List Node → Bytes
  | [] => []
  | n :: ns => renderNode o source ⟨parent, !ns.isEmpty⟩ n ++ renderNodes o source parent ns

end

def render (o : RenderOptions) (source : Bytes) (doc : Node) : Bytes :=
  renderNode o source ⟨.document, false⟩ doc

end MarkdownTidy.Html
