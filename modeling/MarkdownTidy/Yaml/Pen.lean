import MarkdownTidy.Text.Utf8
import MarkdownTidy.Yaml.Node

/-! Writing YAML text: where the line stands, and the comments still to be written. -/

namespace MarkdownTidy.Yaml

structure Pen where
  out : Array UInt8 := #[]
  column : Nat := 0
  /-- The column of the block being written, negative outside any. -/
  indent : Int := -1
  /-- Whether a blank stands just before. -/
  spaced : Bool := true
  /-- Whether only indentation stands on the line. -/
  fresh : Bool := true
  /-- The column at which a comment below something was written last, negative for none; an empty
  line follows it. -/
  footIndent : Int := -1
  /-- How many flow collections are open. -/
  flow : Nat := 0
  head : Bytes := []
  line : Bytes := []
  foot : Bytes := []
  /-- The comment below the mapping entry before. -/
  tail : Bytes := []
  /-- The comment on the line of a key, waiting for a scalar. -/
  keyLine : Bytes := []

namespace Pen

def step : Nat := 2

def put (s : Bytes) (p : Pen) : Pen :=
  { p with out := p.out ++ s.toArray, column := p.column + (s.filter Utf8.isStart).length }

def lineEnd (p : Pen) : Pen :=
  { p with out := p.out.push Bytes.newline, column := 0, fresh := true }

def isBreak (code : Nat) : Bool :=
  code == 10 || code == 13 || code == 0x85 || code == 0x2028 || code == 0x2029

def putBreak (r : Utf8.CodePoint) (p : Pen) : Pen :=
  if r.code == 10 then p.lineEnd else { p.put r.bytes with column := 0, fresh := true }

def indented (p : Pen) : Pen :=
  let indent := p.indent.toNat
  let p := if !p.fresh || p.column > indent || (p.column == indent && !p.spaced) then p.lineEnd else p
  let p := if p.footIndent == indent then p.lineEnd else p
  { p.put (Bytes.spaces (indent - p.column)) with spaced := true, footIndent := -1 }

def indicator (s : Bytes) (needsSpace isSpace isFresh : Bool) (p : Pen) : Pen :=
  let p := if needsSpace && !p.spaced then p.put [byte ' '] else p
  { p.put s with spaced := isSpace, fresh := p.fresh && isFresh }

def deeper (p : Pen) : Pen :=
  { p with indent := if p.indent < 0 then step else step * ((p.indent + step) / step) }

/-! ### Comments -/

def enter (r : Remarks) (tail : Bytes) (p : Pen) : Pen :=
  { p with
    head := if r.head.isEmpty then p.head else r.head
    line := if r.line.isEmpty then p.line else r.line
    foot := if r.foot.isEmpty then p.foot else r.foot
    tail := if tail.isEmpty then p.tail else tail }

def commentFrom : List Utf8.CodePoint → Bool → Bool → Pen → Pen
  | [], broken, _, p => { (if broken then p else p.lineEnd) with spaced := true }
  | r :: rest, broken, marked, p =>
    if isBreak r.code then commentFrom rest true false (p.putBreak r)
    else
      let p := if broken then p.indented else p
      let p := if !marked && r.code != 35 then p.put (utf8 "# ") else p
      commentFrom rest false true { p.put r.bytes with fresh := false }

def comment (s : Bytes) (p : Pen) : Pen := commentFrom (Utf8.codePoints s) false false p

def heads (p : Pen) : Pen :=
  let p :=
    if p.tail.isEmpty then p
    else { p.indented.comment p.tail with tail := [], footIndent := max p.indent 0 }
  if p.head.isEmpty then p else { p.indented.comment p.head with head := [] }

def lines (p : Pen) : Pen :=
  if p.line.isEmpty then p
  else
    let text := p.line
    { (if p.spaced then p else p.put [byte ' ']).comment text with line := [] }

def feet (p : Pen) : Pen :=
  if p.foot.isEmpty then p
  else { p.indented.comment p.foot with foot := [], footIndent := max p.indent 0 }

def hasTrailing (p : Pen) : Bool := !(p.line.isEmpty && p.foot.isEmpty && p.tail.isEmpty)

end Pen

end MarkdownTidy.Yaml
