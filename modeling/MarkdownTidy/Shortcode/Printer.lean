import MarkdownTidy.Shortcode.Basic
import MarkdownTidy.Text.Blank

/-! Writing shortcodes back. Whatever the delimiters they were read with, they come out between
`{{<` and `>}}`. -/

namespace MarkdownTidy.Shortcode

def writtenOpening : Bytes := utf8 "\x7b\x7b<"
def writtenClosing : Bytes := utf8 ">\x7d\x7d"

def escapeValue : Bytes → Bytes
  | [] => []
  | b :: rest =>
    if b == byte '&' then utf8 "&amp;" ++ escapeValue rest
    else if b == byte '"' then utf8 "&quot;" ++ escapeValue rest
    else
      match b, rest with
      | 0xC2, 0xA0 :: rest => utf8 "&nbsp;" ++ escapeValue rest
      | b, rest => b :: escapeValue rest

def printAttribute (a : Attribute) : Bytes :=
  a.name ++ utf8 "=\"" ++ escapeValue a.value ++ utf8 "\""

def printAttributes (attrs : Attributes) : Bytes :=
  Bytes.join (utf8 " ") (attrs.map printAttribute)

def print (sc : Shortcode) : Bytes :=
  let parts := [writtenOpening, sc.identifier, printAttributes sc.attributes, writtenClosing]
  Bytes.join (utf8 " ") ((parts.map Text.trimSpace).filter (!·.isEmpty))

end MarkdownTidy.Shortcode
