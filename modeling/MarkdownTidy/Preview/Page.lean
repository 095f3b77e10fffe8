import MarkdownTidy.Config
import MarkdownTidy.Converter
import MarkdownTidy.Html.Element
import MarkdownTidy.Preview.Metadata
import MarkdownTidy.Preview.Toc

/-! A document as a page of its own. -/

namespace MarkdownTidy.Preview

open Html (Element)

def converter (shortcodes : ShortcodeSource) (inline : Bool) : Converter where
  extensions := [.shortcodes shortcodes inline, .media, .attributeList, .linkRewrite, .alerts,
    .frontMatter Metadata.problem?, .tables, .footnotes]
  headingIds := true
  options := { raw := true, xhtml := true }

/-- The title in the front matter, else the text of the first heading of the first level. -/
def title (source : Bytes) (document : Node) (frontMatter : Option Bytes) : Bytes :=
  match frontMatter.bind Metadata.title? with
  | some t => t
  | none =>
    match document.children.find? (·.kind == .heading 1) with
    | some h => h.plainText source
    | none => utf8 "Preview"

def element (tag : String) (attributes : List (String × Bytes)) (children : List Element) : Element :=
  .new (utf8 tag) (attributes.map fun (n, v) => (utf8 n, v)) children

mutual

def tocEntry : TocItem → Element
  | .mk title id items =>
    let link := element "a" [("href", utf8 "#" ++ id)] [.text title]
    match items with
    | [] => element "li" [] [link]
    | i :: is => element "li" [] [link, element "ul" [] (tocEntry i :: tocEntries is)]

def tocEntries : List TocItem → List Element
  | [] => []
  | i :: is => tocEntry i :: tocEntries is

end

def navigation (items : List TocItem) : List Element :=
  if items.isEmpty then []
  else
    [element "nav" [("class", utf8 "nav-toc")]
      [element "div" [("class", utf8 "toc")] [element "ul" [] (tocEntries items)]]]

/-- A page with a style sheet, the shared attribute names afterwards, and where reading the document stopped
the program. -/
structure Page where
  html : Bytes
  log : List Bytes
  names : MarkdownAttributes
  overrun? : Option Overrun

/-- The page of a document. -/
def render (sheet : Bytes) (config : Config) (names : MarkdownAttributes) (source : Bytes) : Page :=
  let (own, names) := config.shortcodes.attributeSet names
  let reader := Shortcode.Reader.new config.shortcodes.startBlock config.shortcodes.endBlock id
  let c := converter ⟨reader, own⟩ config.shortcodes.inlineMode
  let read := c.read names source
  let body := c.render source read.document
  let toc := if config.preview.toc then navigation (TocItem.ofDocument source read.document) else []
  let root := element "html" [("lang", utf8 "en")]
    [element "head" []
      [element "meta" [("charset", utf8 "utf-8")] [],
        element "title" [] [.text (title source read.document read.frontMatter)],
        element "style" [] [.raw sheet]],
      element "body" [] (toc ++ [element "main" [] [.raw body]])]
  let html := match root.render 0 with
    | .ok s => s
    | .error _ => []
  ⟨utf8 "<!DOCTYPE html>\n" ++ html, read.log, read.names, read.overrun?⟩

end MarkdownTidy.Preview
