import MarkdownTidy.Yaml.Problem

/-! The tokens of a stream and the comments between them. -/

namespace MarkdownTidy.Yaml

inductive ScalarStyle where
  | plain
  | single
  | double
  | literal
  | folded
  deriving DecidableEq, Repr, Inhabited

inductive TokenKind where
  | streamStart
  | streamEnd
  | version (major minor : Nat)
  | tagDirective (handle : Bytes) (stem : Bytes)
  | documentStart
  | documentEnd
  | blockSequenceStart
  | blockMappingStart
  | blockEnd
  | flowSequenceStart
  | flowSequenceEnd
  | flowMappingStart
  | flowMappingEnd
  | blockEntry
  | flowEntry
  | key
  | value
  | aliasOf (name : Bytes)
  | anchor (name : Bytes)
  | tag (handle suffix : Bytes)
  | scalar (text : Bytes) (style : ScalarStyle)
  deriving DecidableEq, Repr, Inhabited

structure Token where
  kind : TokenKind
  start : Mark
  stop : Mark
  deriving DecidableEq, Repr, Inhabited

/-- A comment, by how it relates to what is around it: ahead of a node, on its line, or below it.
It belongs to the first token at or past `owner`. `scan` and `stop` delimit the white space and
comments it was found in. -/
structure Comment where
  scan : Nat := 0
  owner : Nat := 0
  start : Mark := {}
  stop : Nat := 0
  head : Bytes := []
  line : Bytes := []
  foot : Bytes := []
  deriving DecidableEq, Repr, Inhabited

end MarkdownTidy.Yaml
