import MarkdownTidy.Bytes

/-! A shortcode is a name with an ordered list of attributes, written between two delimiters. -/

namespace MarkdownTidy

structure Attribute where
  name : Bytes
  value : Bytes
  deriving DecidableEq, Repr, Inhabited

abbrev Attributes := List Attribute

namespace Attributes

def get? (attrs : Attributes) (name : Bytes) : Option Bytes :=
  (attrs.find? (·.name == name)).map (·.value)

def names (attrs : Attributes) : List Bytes := attrs.map (·.name)

end Attributes

structure Shortcode where
  identifier : Bytes
  attributes : Attributes
  deriving DecidableEq, Repr, Inhabited

end MarkdownTidy
