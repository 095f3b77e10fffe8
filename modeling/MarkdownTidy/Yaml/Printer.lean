import MarkdownTidy.Yaml.Resolve
import MarkdownTidy.Yaml.ScalarText

/-! Writing a mapping as a document: one entry a line, with every collection inside it on the line
of its entry. -/

namespace MarkdownTidy.Yaml

/-- A tag as it is written: a handle and a suffix. -/
structure WrittenTag where
  handle : Bytes := []
  suffix : Bytes := []
  deriving DecidableEq, Repr

namespace WrittenTag

def of (tag : Bytes) : WrittenTag :=
  let t := Tag.long tag
  if t.isEmpty then {}
  else if Bytes.startsWith t (utf8 "!") then ⟨utf8 "!", t.drop 1⟩
  else if Bytes.startsWith t Tag.standard then ⟨utf8 "!!", t.drop Tag.standard.length⟩
  else ⟨[], t⟩

def isNone (t : WrittenTag) : Bool := t.handle.isEmpty && t.suffix.isEmpty

def length (t : WrittenTag) : Nat := t.handle.length + t.suffix.length

def encode (b : UInt8) : Bytes :=
  if Bytes.isAlphanumeric b || (utf8 "-_;/?:@&=+$,.~*'()[]").contains b then [b]
  else [byte '%', Bytes.hexDigitUpper (b.toNat / 16), Bytes.hexDigitUpper (b.toNat % 16)]

end WrittenTag

namespace Node

def writtenTag : Node → WrittenTag
  | scalar t _ value =>
    if t.tagged then .of t.tag
    else if t.tag == Tag.str || t.tag == Resolve.tagOf value then {}
    else .of t.tag
  | sequence t _ _ => if t.tag == Tag.seq then {} else .of t.tag
  | mapping t _ _ => if t.tag == Tag.map then {} else .of t.tag
  | aliasOf .. => {}

def wantedStyle (t : Traits) (style : ScalarStyle) (value : Bytes) : ScalarStyle :=
  if style != .plain then style
  else if value.contains Bytes.newline then .literal
  else if !t.tagged && t.tag == Tag.str && Resolve.tagOf value != Tag.str then .double
  else .plain

def isSimpleKey (n : Node) : Bool :=
  let common := n.traits.anchor.length + n.writtenTag.length
  match n with
  | aliasOf _ name _ => name.length ≤ 128
  | scalar _ _ value => !(ScalarShape.of value).multiline && common + value.length ≤ 128
  | sequence _ _ items => items.isEmpty && common ≤ 128
  | mapping _ _ entries => entries.isEmpty && common ≤ 128

def startRemarks (n : Node) : Remarks :=
  match n with
  | sequence t _ _ | mapping t _ _ => { head := t.remarks.head }
  | _ => n.traits.remarks

def endRemarks (n : Node) : Remarks := { n.traits.remarks with head := [] }

end Node

namespace Pen

def anchorMark (mark : String) (name : Bytes) (p : Pen) : Pen :=
  if name.isEmpty then p
  else { (p.indicator (utf8 mark) true false false).put name with spaced := false, fresh := false }

def tagMark (t : WrittenTag) (p : Pen) : Pen :=
  let suffix := t.suffix.flatMap WrittenTag.encode
  if t.isNone then p
  else if t.handle.isEmpty then
    let p := (p.indicator (utf8 "!<") true false false).put suffix
    { p with spaced := false, fresh := false }.indicator (utf8 ">") false false false
  else
    let p := if p.spaced then p else p.put [byte ' ']
    { p.put (t.handle ++ suffix) with spaced := false, fresh := false }

/-- Writes a scalar or an alias, and of a collection what stands ahead of it. -/
def opening (key : Bool) (n : Node) (p : Pen) : Pen :=
  match n with
  | .aliasOf _ name _ => p.anchorMark "*" name
  | .scalar t style value =>
    let shape := ScalarShape.of value
    let style := shape.choose value (p.flow > 0) key (Node.wantedStyle t style value)
    ((p.anchorMark "&" t.anchor).tagMark n.writtenTag).scalar style value
  | _ => (p.anchorMark "&" n.traits.anchor).tagMark n.writtenTag

def trailing (p : Pen) : Pen :=
  ((if p.hasTrailing then p.indicator (utf8 ",") false false false else p).lines).feet

def openFlow (mark : String) (p : Pen) : Pen :=
  let p := (p.indicator (utf8 mark) true true false).deeper
  { p with flow := p.flow + 1 }

def closeFlow (mark : String) (outer : Int) (p : Pen) : Pen :=
  let p := p.indicator (utf8 mark) false false false
  { p with indent := outer }.lines.feet

def nextEntry (comma : Bool) (p : Pen) : Pen :=
  let p := (if comma then p.indicator (utf8 ",") false false false else p).heads
  if p.column == 0 then p.indented else p

mutual

/-- Writes a collection in flow style, with the comments at its end; what stands ahead of it has been
written. -/
def contents (n : Node) (atEnd : Remarks) (p : Pen) : Pen :=
  match n with
  | .sequence _ _ items =>
    let outer := p.indent
    let p := flowItems items false (p.openFlow "[")
    let p := p.enter atEnd []
    let p := { p with flow := p.flow - 1, indent := outer }
    (if p.column == 0 then p.indented else p).closeFlow "]" outer
  | .mapping _ _ entries =>
    let outer := p.indent
    let (p, tail, comma) := flowEntries entries [] false (p.openFlow "\x7b")
    let p := p.enter atEnd tail
    let p :=
      if comma && !(p.head.isEmpty && p.foot.isEmpty && p.tail.isEmpty) then
        p.indicator (utf8 ",") false false false
      else p
    let p := p.heads
    { p with flow := p.flow - 1, indent := outer }.closeFlow "\x7d" outer
  | _ => p

def flowItems (items : List Node) (comma : Bool) (p : Pen) : Pen :=
  match items with
  | [] => p
  | n :: rest =>
    let p := (p.enter n.startRemarks []).nextEntry comma
    let trail := p.hasTrailing
    let p := contents n n.endRemarks (p.opening false n).trailing
    flowItems rest (!trail) p

/-- Writes the entries of a flow mapping; gives the comment below the last and whether a comma is
due. -/
def flowEntries (entries : List (Node × Node)) (tail : Bytes) (comma : Bool) (p : Pen) :
    Pen × Bytes × Bool :=
  match entries with
  | [] => (p, tail, comma)
  | (k, v) :: rest =>
    let ownTail := match k with
      | .scalar .. | .mapping .. => tail
      | _ => []
    let p := (p.enter { k.startRemarks with foot := [] } ownTail).nextEntry comma
    let simple := k.isSimpleKey
    let p := if simple then p else p.indicator (utf8 "?") true false false
    let p := contents k { k.endRemarks with foot := [] } (p.opening simple k)
    let p := (p.enter v.startRemarks []).indicator (utf8 ":") (!simple) false false
    let trail := p.hasTrailing
    let p := contents v v.endRemarks (p.opening false v).trailing
    flowEntries rest k.foot (!trail) p

end

/-- Writes the entries of a block mapping; gives the comment below the last. -/
def blockEntries : List (Node × Node) → Bytes → Pen → Pen × Bytes
  | [], tail, p => (p, tail)
  | (k, v) :: rest, tail, p =>
    let ownTail := match k with
      | .scalar .. | .mapping .. => tail
      | _ => []
    let p := (p.enter { k.startRemarks with foot := [] } ownTail).heads.indented
    let p := if p.line.isEmpty then p else { p with keyLine := p.line, line := [] }
    let simple := k.isSimpleKey
    let p := if simple then p else p.indicator (utf8 "?") true false true
    let p := contents k { k.endRemarks with foot := [] } (p.opening simple k)
    let p := p.enter v.startRemarks []
    let p :=
      if simple then p.indicator (utf8 ":") false false false
      else p.indented.indicator (utf8 ":") true false true
    let p :=
      match v with
      | .scalar .. => if p.line.isEmpty then { p with line := p.keyLine, keyLine := [] } else p
      | _ => p
    let p := contents v v.endRemarks (p.opening false v).lines.feet
    blockEntries rest k.foot p

end Pen

/-- Writes a mapping that has entries as a document. -/
def print (n : Node) : Bytes :=
  match n with
  | .mapping t _ entries =>
    let p := (Pen.enter { head := t.remarks.head } [] {}).heads
    let p := { p.opening false n with indent := 0 }
    let (p, tail) := Pen.blockEntries entries [] p
    let p := (p.enter { t.remarks with head := [] } tail).heads
    let p := { p with indent := -1, footIndent := 0 }.feet
    { p with footIndent := -1 }.indented.out.toList
  | _ => []

end MarkdownTidy.Yaml
