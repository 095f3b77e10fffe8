import MarkdownTidy.Yaml.Token

/-! The nodes of a document, with how they were written. -/

namespace MarkdownTidy.Yaml

/-- The comments ahead of a node, on its line and below it. -/
structure Remarks where
  head : Bytes := []
  line : Bytes := []
  foot : Bytes := []
  deriving DecidableEq, Repr, Inhabited

/-- What every node has. -/
structure Traits where
  /-- The tag in its short form. -/
  tag : Bytes
  /-- Whether the tag was written. -/
  tagged : Bool := false
  /-- The anchor, empty for none. -/
  anchor : Bytes := []
  /-- The line the node begins on, counted from one. -/
  line : Nat
  remarks : Remarks := {}
  deriving DecidableEq, Repr, Inhabited

inductive Node where
  | scalar (traits : Traits) (style : ScalarStyle) (value : Bytes)
  | sequence (traits : Traits) (flow : Bool) (items : List Node)
  | mapping (traits : Traits) (flow : Bool) (entries : List (Node × Node))
  /-- A reference to the anchored node with a given number. -/
  | aliasOf (traits : Traits) (name : Bytes) (target : Nat)
  deriving Repr, Inhabited

/-! ### Tags -/

namespace Tag

def standard : Bytes := utf8 "tag:yaml.org,2002:"

def null : Bytes := utf8 "!!null"
def bool : Bytes := utf8 "!!bool"
def int : Bytes := utf8 "!!int"
def float : Bytes := utf8 "!!float"
def str : Bytes := utf8 "!!str"
def timestamp : Bytes := utf8 "!!timestamp"
def binary : Bytes := utf8 "!!binary"
def merge : Bytes := utf8 "!!merge"
def seq : Bytes := utf8 "!!seq"
def map : Bytes := utf8 "!!map"

def short (t : Bytes) : Bytes :=
  if Bytes.startsWith t standard then utf8 "!!" ++ t.drop standard.length else t

def long (t : Bytes) : Bytes :=
  if Bytes.startsWith t (utf8 "!!") then standard ++ t.drop 2 else t

end Tag

namespace Node

def traits : Node → Traits
  | scalar t _ _ | sequence t _ _ | mapping t _ _ | aliasOf t _ _ => t

def mapTraits (f : Traits → Traits) : Node → Node
  | scalar t s v => scalar (f t) s v
  | sequence t fl xs => sequence (f t) fl xs
  | mapping t fl es => mapping (f t) fl es
  | aliasOf t n i => aliasOf (f t) n i

def tag (n : Node) : Bytes := n.traits.tag

def line (n : Node) : Nat := n.traits.line

def foot (n : Node) : Bytes := n.traits.remarks.foot

def setFoot (foot : Bytes) (n : Node) : Node :=
  n.mapTraits fun t => { t with remarks := { t.remarks with foot := foot } }

def text : Node → Bytes
  | scalar _ _ v => v
  | aliasOf _ name _ => name
  | _ => []

def isMapping : Node → Bool
  | mapping .. => true
  | _ => false

def isMerge : Node → Bool
  | scalar t _ v => v == utf8 "<<" && t.tag == Tag.merge
  | _ => false

end Node

end MarkdownTidy.Yaml
