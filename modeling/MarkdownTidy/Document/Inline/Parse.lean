import MarkdownTidy.Document.Inline.Leaf
import MarkdownTidy.Document.Inline.Link
import MarkdownTidy.Document.Inline.Linkify

/-! The inline content of a block. -/

namespace MarkdownTidy.Inline

/-- How a line of text ends. -/
inductive Ending where
  | none | soft | hard
  /-- A hard break written with a backslash. -/
  | backslash
  deriving DecidableEq, Repr

/-- The part of a line to read, and how the line ends. A backslash or two spaces before the line feed
make a hard break. -/
def ending (line : Bytes) : Nat × Ending :=
  let n := line.length
  match line.reverse with
  | a :: rest =>
    if a != Bytes.newline then (n, .none)
    else
      let body := if rest.head? == some (byte '\r') then rest.drop 1 else rest
      let hard (rest : Bytes) (cut : Nat) : Option (Nat × Ending) :=
        match rest with
        | b :: before =>
          if b == byte '\\' && before.head? != some (byte '\\') then some (n - cut - 1, .backslash)
          else none
        | [] => Option.none
      let spaced (rest : Bytes) (cut : Nat) : Option (Nat × Ending) :=
        if (rest.take 2) == [byte ' ', byte ' '] then some (n - cut - 2, .hard) else none
      let crlf := body.length < rest.length
      ((hard rest 1 <|> (if crlf then hard body 2 else .none) <|>
        spaced rest 1 <|> (if crlf then spaced body 2 else .none))).getD (n, .soft)
  | [] => (n, .none)

def delimiter (scope : InlineScope) (strike : Bool) (s : InlineState) (c : TextCursor) : Attempt :=
  let before := c.preceding (scope.lines.head?.map (·.span))
  match Delimiter.scan c.line before c.pos with
  | none => .refused s
  | some d =>
    if strike && (d.written > 2 || before == (byte '~').toNat) then .refused s
    else .applied (s.push (.delimiter d)) (c.advance d.written)

/-- Tries one rule at a position. -/
def attempt (scope : InlineScope) (s : InlineState) (c : TextCursor) (r : InlineRule) : Attempt :=
  let node (found : Option (Node × TextCursor)) : Attempt :=
    match found with
    | some (n, c) => .applied (s.pushNode n) c
    | none => .refused s
  let state (found : Option (InlineState × TextCursor)) : Attempt :=
    match found with
    | some (s, c) => .applied s c
    | none => .refused s
  match r with
  | .taskCheckBox => node (taskCheckBox? scope s c)
  | .codeSpan => node (some (codeSpan scope.source c))
  | .footnote => state (footnote? scope s c)
  | .link => link scope s c
  | .autoLink => node (autoLink? c)
  | .rawHtml => node ((rawHtml? c).map fun (spans, c) => (.leaf (.rawHtml spans) [], c))
  | .emphasis => delimiter scope false s c
  | .strikethrough => delimiter scope true s c
  | .linkify => state (linkify? s c)
  | .alert => node (alert? scope s c)
  | .attributeList => node (attributeList? c)
  | .shortcode source =>
    let (found, names) := shortcode? scope source s.memory.names c
    let s := { s with memory := { s.memory with names := names } }
    match found with
    | some (sc, c) => .applied (s.pushNode (.leaf (.shortcode sc) [])) c
    | none => .refused s
  | .never _ => .refused s

def firstOf (scope : InlineScope) (c : TextCursor) (atOnce : Bool) :
    InlineState → List InlineRule → Attempt × Bool
  | s, [] => (.refused s, false)
  | s, r :: rs =>
    match attempt scope s c r with
    | .applied s c => (.applied s c, atOnce)
    | .refused s => firstOf scope c false s rs

/-- Where reading of a line stands. -/
structure Reading where
  state : InlineState
  /-- The next byte. -/
  cursor : TextCursor
  /-- Where the text not yet taken up begins. -/
  start : Nat
  /-- The bytes of the line still to be read, and whether any was read. -/
  left : Nat
  fresh : Bool
  ending : Ending
  /-- Whether a backslash stands right before. -/
  escaped : Bool

namespace Reading

def begin (s : InlineState) (c : TextCursor) (escaped : Bool) : Reading :=
  let (n, e) := Inline.ending c.line
  ⟨s, c, c.pos, n, true, e, escaped⟩

def finishLine (source : Bytes) (r : Reading) : InlineState :=
  let span : Span := ⟨r.start, r.cursor.pos, 0⟩
  let span := if r.ending == .backslash then span else span.trimRight source
  r.state.pushNode (.leaf
    (.text span (r.ending == .soft) (r.ending == .hard || r.ending == .backslash) false) [])

def skipByte (r : Reading) (b : UInt8) : Reading :=
  { r with
    cursor := r.cursor.step, left := r.left - 1, fresh := false
    escaped := !r.escaped && b == byte '\\' }

/-- Reads lines, one byte or one rule at a time. -/
def run (scope : InlineScope) : Nat → Reading → InlineState
  | 0, r => r.state
  | fuel + 1, r =>
    let nextLine (r : Reading) : InlineState :=
      let s := r.finishLine scope.source
      let c := r.cursor.nextLine
      if c.atEnd then s else run scope fuel (begin s c r.escaped)
    match r.left, r.cursor.line with
    | 0, _ | _, [] => nextLine r
    | _, b :: _ =>
      if b == Bytes.newline then nextLine r
      else
        let punct := Bytes.isPunct b
        let trigger := if Bytes.isSpace b || !punct then byte ' ' else b
        let rules :=
          if (punct && !r.escaped) || Bytes.isSpace b || r.fresh then
            scope.grammar.inlineRulesFor trigger
          else []
        if rules.isEmpty then run scope fuel (r.skipByte b)
        else
          let s := if r.fresh then r.state else r.state.pushText ⟨r.start, r.cursor.pos, 0⟩
          match firstOf scope r.cursor true s rules with
          | (.applied s c, atOnce) =>
            if c.atEnd then s else run scope fuel (begin s c (r.escaped && atOnce))
          | (.refused s, _) =>
            let start := if r.fresh then r.start else r.cursor.pos
            run scope fuel ({ r with state := s, start := start, escaped := false }.skipByte b)

end Reading

/-- The inline nodes of a block, and what its reading added to the memory. -/
def read (scope : InlineScope) (memory : InlineMemory) : List Node × InlineMemory :=
  let c := TextCursor.ofLines scope.lines
  if c.atEnd then ([], memory)
  else
    let size := (scope.lines.map fun l => l.text.length + 2).foldl (· + ·) 0
    let s := Reading.run scope (2 * size + 2) (Reading.begin ⟨[], [], memory⟩ c false)
    (Piece.toNodes (Piece.process s.flatten), s.memory)

end MarkdownTidy.Inline
