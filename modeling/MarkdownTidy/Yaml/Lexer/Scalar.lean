import MarkdownTidy.Yaml.Cursor
import MarkdownTidy.Yaml.Token

/-! Plain, quoted and block scalars. Inside a plain or quoted scalar a single line end reads as a
space, and of several the first is dropped. -/

namespace MarkdownTidy.Yaml.Lexer

/-- Blanks and line ends inside a scalar. -/
structure Gap where
  blanks : Bytes := []
  first : Bytes := []
  more : Bytes := []
  broken : Bool := false
  deriving Repr, Inhabited

def Gap.joined (g : Gap) : Bytes :=
  if g.broken then
    if g.first == [Bytes.newline] then (if g.more.isEmpty then [byte ' '] else g.more)
    else g.first ++ g.more
  else g.blanks

def takeGap (indent : Nat) : Nat → Gap → Cursor → Option (Gap × Cursor)
  | 0, g, c => some (g, c)
  | fuel + 1, g, c =>
    if atBlank c.rest then
      if g.broken && c.mark.column < indent && c.current == byte '\t' then none
      else
        let (b, c') := c.take
        takeGap indent fuel (if g.broken then g else { g with blanks := g.blanks ++ b }) c'
    else if atBreak c.rest then
      let (b, c') := c.takeBreak
      let g := if g.broken then { g with more := g.more ++ b }
        else { g with blanks := [], first := b, broken := true }
      takeGap indent fuel g c'
    else some (g, c)

/-! ### Plain scalars -/

def endsPlain (flow : Bool) : Bytes → Bool
  | [] => true
  | b :: s => (b == byte ':' && atGap s) || (flow && (utf8 ",?[]\x7b\x7d").contains b)

def takePlainRun (flow : Bool) : Nat → Cursor → Bytes × Cursor
  | 0, c => ([], c)
  | fuel + 1, c =>
    if atGap c.rest || endsPlain flow c.rest then ([], c)
    else
      let (s, c) := c.take
      let (t, c) := takePlainRun flow fuel c
      (s ++ t, c)

/-- A scalar that has been read, and whether line ends behind it have been read too. -/
structure Scanned where
  text : Bytes
  cursor : Cursor
  broken : Bool := false

/-- Goes on with a plain scalar of which `text` has been read, and `gap` after it. -/
def plainFrom (flow : Bool) (indent : Nat) (start : Mark) :
    Nat → Bytes → Gap → Cursor → Except Problem Scanned
  | 0, text, gap, c => .ok ⟨text, c, gap.broken⟩
  | fuel + 1, text, gap, c =>
    if (c.mark.column == 0 && atDocumentMark c.rest) || c.current == byte '#' then
      .ok ⟨text, c, gap.broken⟩
    else
      let (run, c) := takePlainRun flow c.rest.length c
      let text := if run.isEmpty then text else text ++ gap.joined ++ run
      let gap := if run.isEmpty then gap else {}
      if !(atBlank c.rest || atBreak c.rest) then .ok ⟨text, c, gap.broken⟩
      else
        match takeGap indent c.rest.length gap c with
        | none => .error (.ofToken .tabIndentation start (skipToTab indent c.rest.length gap c).mark)
        | some (gap, c) =>
          if !flow && c.mark.column < indent then .ok ⟨text, c, gap.broken⟩
          else plainFrom flow indent start fuel text gap c
where
  /-- The place of the tab at which a gap cannot be read. -/
  skipToTab (indent : Nat) : Nat → Gap → Cursor → Cursor
    | 0, _, c => c
    | fuel + 1, g, c =>
      if atBreak c.rest then skipToTab indent fuel { g with broken := true } c.skipBreak
      else if g.broken && c.mark.column < indent && c.current == byte '\t' then c
      else if atBlank c.rest then skipToTab indent fuel g c.skip
      else c

def plain (flow : Bool) (indent : Nat) (c : Cursor) : Except Problem Scanned :=
  plainFrom flow indent c.mark c.rest.length [] {} c

/-! ### Quoted scalars -/

def escape? (b : UInt8) : Option Bytes :=
  let table : List (Char × Nat) :=
    [('0', 0), ('a', 7), ('b', 8), ('t', 9), ('\t', 9), ('n', 10), ('v', 11), ('f', 12), ('r', 13),
      ('e', 27), (' ', 32), ('"', 34), ('\'', 39), ('\\', 92), ('N', 0x85), ('_', 0xA0),
      ('L', 0x2028), ('P', 0x2029)]
  (table.find? fun (c, _) => byte c == b).map fun (_, code) => Utf8.encode code

def escapeDigits? (b : UInt8) : Option Nat :=
  if b == byte 'x' then some 2
  else if b == byte 'u' then some 4
  else if b == byte 'U' then some 8
  else none

/-- The escape here, which is not one of a line end. -/
def takeEscape (start : Mark) (c : Cursor) : Except Problem (Bytes × Cursor) :=
  match escape? c.following with
  | some s => .ok (s, Cursor.skipMany 2 c)
  | none =>
    match escapeDigits? c.following with
    | none => .error (.ofToken .unknownEscape start c.mark)
    | some n =>
      let c := Cursor.skipMany 2 c
      let digits := c.rest.take n
      if digits.length < n || !digits.all Bytes.isHexDigit then
        .error (.ofToken .escapeDigits start c.mark)
      else
        let code := digits.foldl (fun v d => v * 16 + Bytes.hexValue d) 0
        if (0xD800 ≤ code && code ≤ 0xDFFF) || code > 0x10FFFF then
          .error (.ofToken .escapeCode start c.mark)
        else .ok (Utf8.encode code, Cursor.skipMany n c)

/-- The characters up to a gap or the closing quote, and whether an escaped line end stopped them. -/
def takeQuotedRun (single : Bool) (start : Mark) :
    Nat → Cursor → Except Problem (Bytes × Bool × Cursor)
  | 0, c => .ok ([], false, c)
  | fuel + 1, c =>
    let after (s : Bytes) (c : Cursor) : Except Problem (Bytes × Bool × Cursor) := do
      let (t, broken, c) ← takeQuotedRun single start fuel c
      pure (s ++ t, broken, c)
    if atGap c.rest then .ok ([], false, c)
    else if single then
      if c.current == byte '\'' then
        if c.following == byte '\'' then after [byte '\''] (Cursor.skipMany 2 c)
        else .ok ([], false, c)
      else after c.take.1 c.take.2
    else if c.current == byte '"' then .ok ([], false, c)
    else if c.current == byte '\\' then
      if atBreak (c.rest.drop 1) then .ok ([], true, c.skip.skipBreak)
      else do
        let (s, c) ← takeEscape start c
        after s c
    else after c.take.1 c.take.2

def quotedFrom (single : Bool) (start : Mark) : Nat → Bytes → Cursor → Except Problem Scanned
  | 0, text, c => .ok ⟨text, c, false⟩
  | fuel + 1, text, c => do
    if c.mark.column == 0 && atDocumentMark c.rest then
      throw (.ofToken .documentIndicator start c.mark)
    if c.atEnd then throw (.ofToken .endOfStream start c.mark)
    let (run, broken, c) ← takeQuotedRun single start c.rest.length c
    let text := text ++ run
    if c.current == (if single then byte '\'' else byte '"') then
      pure ⟨text, c.skip, false⟩
    else
      match takeGap 0 c.rest.length { broken := broken } c with
      | none => pure ⟨text, c, false⟩
      | some (gap, c) => quotedFrom single start fuel (text ++ gap.joined) c

def quoted (single : Bool) (c : Cursor) : Except Problem Scanned :=
  quotedFrom single c.mark (c.rest.length + 1) [] c.skip

/-! ### Block scalars -/

/-- What becomes of the line ends at the end of a block scalar. -/
inductive Chomping where
  | clip
  | strip
  | keep
  deriving DecidableEq, Repr

def chomping? (b : UInt8) : Option Chomping :=
  if b == byte '+' then some .keep else if b == byte '-' then some .strip else none

def takeIndicators (start : Mark) (c : Cursor) : Except Problem (Chomping × Nat × Cursor) :=
  let digit (c : Cursor) : Except Problem (Nat × Cursor) :=
    if c.current == byte '0' then .error (.ofToken .zeroIndentation start c.mark)
    else if Bytes.isDigit c.current then .ok (c.current.toNat - 48, c.skip)
    else .ok (0, c)
  match chomping? c.current with
  | some chomp => do
    let (n, c) ← digit c.skip
    pure (chomp, n, c)
  | none => do
    let (n, c) ← digit c
    match chomping? c.current with
    | some chomp => if n == 0 then pure (.clip, n, c) else pure (chomp, n, c.skip)
    | none => pure (.clip, n, c)

def takeBlockBreaks (start : Mark) (indent : Nat) :
    Nat → Bytes → Nat → Cursor → Except Problem (Bytes × Nat × Cursor)
  | 0, breaks, deepest, c => .ok (breaks, deepest, c)
  | fuel + 1, breaks, deepest, c =>
    let spaces := (c.rest.takeWhile (· == byte ' ')).length
    let spaces := if indent == 0 then spaces else min spaces (indent - c.mark.column)
    let c := Cursor.skipMany spaces c
    let deepest := max deepest c.mark.column
    if (indent == 0 || c.mark.column < indent) && c.current == byte '\t' then
      .error (.ofToken .tabInBlock start c.mark)
    else if atBreak c.rest then
      let (b, c) := c.takeBreak
      takeBlockBreaks start indent fuel (breaks ++ b) deepest c
    else .ok (breaks, deepest, c)

/-- The lines of a block scalar. `pending` is the line end of the line before, `blank` says that it
began with a blank. -/
def blockLines (literal : Bool) (chomp : Chomping) (start : Mark) (indent : Nat) :
    Nat → Bytes → Bytes → Bytes → Bool → Cursor → Except Problem Scanned
  | fuel + 1, text, pending, breaks, blank, c =>
    if c.mark.column == indent && !c.atEnd then
      let startsBlank := atBlank c.rest
      let joint :=
        if !literal && !blank && !startsBlank && pending == [Bytes.newline] then
          (if breaks.isEmpty then [byte ' '] else [])
        else pending
      let (line, c) := c.takeLine
      let (pending, c) := c.takeBreak
      match takeBlockBreaks start indent (c.rest.length + 1) [] 0 c with
      | .error e => .error e
      | .ok (more, _, c) =>
        blockLines literal chomp start indent fuel (text ++ joint ++ breaks ++ line) pending more
          startsBlank c
    else finish text pending breaks c
  | 0, text, pending, breaks, _, c => finish text pending breaks c
where
  finish (text pending breaks : Bytes) (c : Cursor) : Except Problem Scanned :=
    let text := if chomp == .strip then text else text ++ pending
    let text := if chomp == .keep then text ++ breaks else text
    .ok ⟨text, c, false⟩

def blockBody (literal : Bool) (chomp : Chomping) (increment : Nat) (parent : Int) (start : Mark)
    (c : Cursor) : Except Problem Scanned := do
  let known := if increment == 0 then 0 else if parent ≥ 0 then parent.toNat + increment else increment
  let (breaks, deepest, c) ← takeBlockBreaks start known (c.rest.length + 1) [] 0 c
  let indent := if known != 0 then known else max (max deepest (parent + 1).toNat) 1
  blockLines literal chomp start indent (c.rest.length + 1) [] [] breaks false c

end MarkdownTidy.Yaml.Lexer
