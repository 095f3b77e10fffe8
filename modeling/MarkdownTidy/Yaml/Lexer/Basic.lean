import MarkdownTidy.Yaml.Cursor
import MarkdownTidy.Yaml.Token

/-! The state of reading tokens. Whether a token begins a mapping key is known only when the colon
behind it is seen, so tokens are queued and the marks of keys and blocks are put in ahead of them. -/

namespace MarkdownTidy.Yaml

/-- How a stream is read. -/
structure Dialect where
  /-- Whether comments are kept. -/
  comments : Bool
  /-- How many tokens are read ahead of the one looked at. -/
  ahead : Nat
  /-- Which line messages name. -/
  blame : Blame
  deriving DecidableEq, Repr

def Dialect.commented : Dialect := ⟨true, 2, .construct⟩

def Dialect.bare : Dialect := ⟨false, 0, .fault⟩

/-- A token that may turn out to begin a mapping key. -/
structure SimpleKey where
  /-- Whether nothing but a key can stand here. -/
  required : Bool
  /-- The place of the token in the queue. -/
  number : Nat
  mark : Mark
  deriving DecidableEq, Repr, Inhabited

structure Lexer where
  dialect : Dialect
  cursor : Cursor
  started : Bool := false
  /-- All tokens so far; the first `taken` of them have been used. -/
  tokens : Array Token := #[]
  taken : Nat := 0
  /-- All comments so far; the first `placed` of them have been attached. -/
  comments : Array Comment := #[]
  placed : Nat := 0
  /-- The column of the innermost block, negative outside any. -/
  indent : Int := -1
  indents : List Int := []
  /-- The possible key of each flow level, innermost first; the last is that of the block level. -/
  keys : List (Option SimpleKey) := [none]
  keyAllowed : Bool := true

namespace Lexer

def new (dialect : Dialect) (text : Bytes) : Lexer := { dialect := dialect, cursor := { rest := text } }

def mark (lx : Lexer) : Mark := lx.cursor.mark

def flowLevel (lx : Lexer) : Nat := lx.keys.length - 1

def inFlow (lx : Lexer) : Bool := lx.keys.length > 1

def push (lx : Lexer) (t : Token) : Lexer := { lx with tokens := lx.tokens.push t }

def insert (lx : Lexer) (n : Nat) (t : Token) : Lexer :=
  { lx with tokens := lx.tokens.insertIdxIfInBounds n t }

def pushIndicator (lx : Lexer) (n : Nat) (k : TokenKind) : Lexer :=
  let c := Cursor.skipMany n lx.cursor
  { lx with cursor := c }.push ⟨k, lx.mark, c.mark⟩

def lastKind? (lx : Lexer) : Option TokenKind := lx.tokens.back?.map (·.kind)

def fault (lx : Lexer) (start : Mark) (f : Fault) : Problem := .ofToken f start lx.mark

/-! ### Possible keys -/

def currentKey? (lx : Lexer) : Option SimpleKey := lx.keys.head?.join

def setKey (lx : Lexer) (k : Option SimpleKey) : Lexer :=
  { lx with keys := k :: lx.keys.tail }

def isStale (lx : Lexer) (k : SimpleKey) : Bool :=
  k.mark.line < lx.mark.line || k.mark.index + 1024 < lx.mark.index

def stillPossible (lx : Lexer) (k : SimpleKey) : Except Problem Bool :=
  if lx.isStale k then
    if k.required then .error (lx.fault k.mark .noColon) else .ok false
  else .ok true

def removeKey (lx : Lexer) : Except Problem Lexer :=
  match lx.currentKey? with
  | none => .ok lx
  | some k => if k.required then .error (lx.fault k.mark .noColon) else .ok (lx.setKey none)

def saveKey (lx : Lexer) : Except Problem Lexer :=
  if !lx.keyAllowed then .ok lx
  else do
    let required := !lx.inFlow && lx.indent == lx.mark.column
    let k : SimpleKey := ⟨required, lx.tokens.size, lx.mark⟩
    let lx ← lx.removeKey
    pure (lx.setKey (some k))

/-! ### Blocks -/

def roll (lx : Lexer) (column : Nat) (at? : Option Nat) (k : TokenKind) (mark : Mark) :
    Except Problem Lexer :=
  if lx.inFlow || lx.indent ≥ column then .ok lx
  else
    let lx := { lx with indents := lx.indent :: lx.indents, indent := column }
    if lx.indents.length > 10000 then .error (lx.fault lx.mark .depth)
    else
      let t : Token := ⟨k, mark, mark⟩
      .ok (match at? with
        | none => lx.push t
        | some n => lx.insert n t)

def blockFoot (column : Int) (stop : Nat) (found : Mark) : List Comment → Mark
  | [] => found
  | k :: ks =>
    if k.stop < stop then found
    else blockFoot column k.scan (if (k.start.column : Int) == column + 1 then k.start else found) ks

def unrollTo (column : Int) : List Int → Lexer → Mark → Lexer
  | [], lx, _ => lx
  | outer :: indents, lx, mark =>
    if lx.indent > column then
      let mark := blockFoot lx.indent mark.index mark lx.comments.toList.reverse
      unrollTo column indents
        { lx.push ⟨.blockEnd, mark, mark⟩ with indent := outer, indents := indents } mark
    else lx

def unroll (lx : Lexer) (column : Int) (scan : Mark) : Lexer :=
  if lx.inFlow then lx
  else
    let mark := if lx.dialect.comments then { scan with index := scan.index - 1 } else lx.mark
    unrollTo column lx.indents lx mark

end Lexer

end MarkdownTidy.Yaml
