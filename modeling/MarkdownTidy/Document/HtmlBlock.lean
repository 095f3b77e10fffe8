import MarkdownTidy.Html.Pattern

/-! The seven kinds of HTML blocks, by the line that begins them and the text that ends them. -/

namespace MarkdownTidy.HtmlBlock

def blockTags : List Bytes := [
  "address", "article", "aside", "base", "basefont", "blockquote", "body", "caption", "center",
  "col", "colgroup", "dd", "details", "dialog", "dir", "div", "dl", "dt", "fieldset", "figcaption",
  "figure", "footer", "form", "frame", "frameset", "h1", "h2", "h3", "h4", "h5", "h6", "head",
  "header", "hr", "html", "iframe", "legend", "li", "link", "main", "menu", "menuitem", "meta",
  "nav", "noframes", "ol", "optgroup", "option", "p", "param", "search", "section", "summary",
  "table", "tbody", "td", "tfoot", "th", "thead", "title", "tr", "track", "ul"].map utf8

def rawTags : List Bytes := ["script", "pre", "style", "textarea"].map utf8

def isLineEnd (s : Bytes) : Bool := s == [] || s == utf8 "\n" || s == utf8 "\r\n"

private def endsTag (s : Bytes) : Bool :=
  s.head? == some (byte '>') || (utf8 "/>").isPrefixOf s

def beginsRaw (s : Bytes) : Bool :=
  rawTags.any fun tag =>
    tag.isPrefixOf (Bytes.lowerAscii (s.take tag.length)) &&
      let rest := s.drop tag.length
      rest.isEmpty || rest.head?.any Bytes.isSpace || endsTag rest

def endsRaw (line : Bytes) : Bool :=
  let line := Bytes.lowerAscii line
  rawTags.any fun tag => Bytes.includes line (utf8 "</" ++ tag ++ utf8 ">")

/-- A complete tag alone on its line: its name, and whether it is a closing tag with attributes. -/
def completeTag? (s : Bytes) : Option (Bytes × Bool) :=
  let (closing, body) :=
    match s with
    | b :: rest => if b == byte '/' then (true, rest.dropWhile (· == byte ' ')) else (false, s)
    | [] => (false, s)
  let spaced := closing && body.length + 1 < s.length
  match Html.takeTagName? body with
  | none => none
  | some (name, after) =>
    let rest := Html.dropAttributes after.length after
    let tail := rest.dropWhile (· == byte ' ')
    let tail :=
      match tail with
      | b :: t => if b == byte '/' then t.dropWhile (· == byte ' ') else tail
      | [] => []
    match tail with
    | b :: t =>
      if b == byte '>' && isLineEnd (t.dropWhile (· == byte ' ')) then
        some (Bytes.lowerAscii name, closing && !spaced && rest.length < after.length)
      else none
    | [] => none

def blockTag? (s : Bytes) : Option Bytes :=
  let body :=
    match s with
    | b :: rest => if b == byte '/' then rest.dropWhile (· == byte ' ') else s
    | [] => s
  match Html.takeTagName? body with
  | none => none
  | some (name, after) =>
    if isLineEnd after || after.head? == some (byte ' ') || endsTag after then
      some (Bytes.lowerAscii name)
    else none

/-- The kind of HTML block that a line begins. A block of kind seven cannot follow a paragraph
directly. -/
def kind? (line : Bytes) (afterParagraph : Bool) : Option Nat :=
  let body := line.dropWhile (· == byte ' ')
  if line.length - body.length > 3 then none
  else
    match body with
    | [] => none
    | b :: s =>
      if b != byte '<' then none
      else if beginsRaw s then some 1
      else if (utf8 "!--").isPrefixOf s then some 2
      else if (utf8 "?").isPrefixOf s then some 3
      else if (utf8 "!").isPrefixOf s && (s.drop 1).head?.any Bytes.isUpper then some 4
      else if (utf8 "![CDATA[").isPrefixOf s then some 5
      else
        let byTag :=
          match blockTag? s with
          | some name => if blockTags.contains name then some 6 else none
          | none => none
        match completeTag? s with
        | some (name, attributed) =>
          if blockTags.contains name then some 6
          else if name != utf8 "script" && name != utf8 "style" && name != utf8 "pre" &&
              !afterParagraph && !attributed then some 7
          else byTag
        | none => byTag

def closer : Nat → Bytes
  | 2 => utf8 "-->"
  | 3 => utf8 "?>"
  | 4 => utf8 ">"
  | _ => utf8 "]]>"

end MarkdownTidy.HtmlBlock
