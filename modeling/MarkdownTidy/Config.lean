import MarkdownTidy.Shortcode.MarkdownAttributes
import MarkdownTidy.Writer.Style

/-! The configuration of a formatter and of previews. -/

namespace MarkdownTidy

structure ShortcodeSettings where
  startBlock : Bytes := utf8 "\x7b\x7b<"
  endBlock : Bytes := utf8 ">\x7d\x7d"
  inlineMode : Bool := true
  /-- The attribute names whose values are formatted as markdown. -/
  markdownAttributes : List Bytes := MarkdownAttributes.defaultNames
  /-- Whether every attribute name that is seen becomes markdown-bearing. -/
  spreadMarkdownAttributes : Bool := true
  deriving DecidableEq, Repr, Inhabited

structure PreviewSettings where
  style : Bytes := utf8 "catppuccin-mocha"
  lineNumbers : Bool := true
  toc : Bool := true
  deriving DecidableEq, Repr, Inhabited

structure Config where
  disableFormatter : Bool := false
  shortcodes : ShortcodeSettings := {}
  style : Style := {}
  preview : PreviewSettings := {}
  deriving DecidableEq, Repr, Inhabited

def ShortcodeSettings.attributeSet (s : ShortcodeSettings) (shared : MarkdownAttributes) :
    Option MarkdownAttributes × MarkdownAttributes :=
  if s.spreadMarkdownAttributes then (none, shared.add s.markdownAttributes)
  else (some (.new false s.markdownAttributes), shared)

def Config.concatUnique (a b : List Bytes) : List Bytes :=
  b.foldl (fun acc x => if acc.contains x then acc else acc ++ [x]) a

end MarkdownTidy
