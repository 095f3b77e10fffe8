import MarkdownTidy.Text.Quoted

/-! The markers that are written where markdown offers a choice. -/

namespace MarkdownTidy

structure Style where
  bullet : Bytes := utf8 "-"
  emphasis : Bytes := utf8 "_"
  strong : Bytes := utf8 "**"
  thematicBreak : Bytes := utf8 "---"
  incrementOrdered : Bool := true
  deriving DecidableEq, Repr, Inhabited

/-- A marker that markdown does not know. -/
inductive StyleError where
  | bullet (marker : Bytes)
  | emphasis (marker : Bytes)
  | strong (marker : Bytes)
  | thematicBreak (marker : Bytes)
  deriving DecidableEq, Repr

def StyleError.message : StyleError → Bytes
  | bullet m => utf8 "invalid bullet marker " ++ Text.quote m
  | emphasis m => utf8 "invalid emphasis marker " ++ Text.quote m
  | strong m => utf8 "invalid strong marker " ++ Text.quote m
  | thematicBreak m => utf8 "invalid thematic break " ++ Text.quote m

namespace Style

def problem? (s : Style) : Option StyleError :=
  if !(["-", "*", "+"].map utf8).contains s.bullet then some (.bullet s.bullet)
  else if !(["_", "*"].map utf8).contains s.emphasis then some (.emphasis s.emphasis)
  else if !(["**", "__"].map utf8).contains s.strong then some (.strong s.strong)
  else if !(["---", "***", "___"].map utf8).contains s.thematicBreak then
    some (.thematicBreak s.thematicBreak)
  else none

def alternateBullet (s : Style) : Bytes := if s.bullet == utf8 "*" then utf8 "-" else utf8 "*"

end Style

end MarkdownTidy
