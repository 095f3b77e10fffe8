import MarkdownTidy.Yaml.Lexer.Comment
import MarkdownTidy.Yaml.Lexer.Scalar
import MarkdownTidy.Yaml.Lexer.Tag

/-! Reading the next token. -/

namespace MarkdownTidy.Yaml.Lexer

def promoteComment (lx : Lexer) : Lexer :=
  let n := lx.tokens.size
  match lx.comments.back?, (lx.tokens[n - 2]?).map Token.kind, lx.lastKind? with
  | some k, some TokenKind.blockSequenceStart, some TokenKind.blockEntry =>
    if n > 1 && !k.line.isEmpty && !atBreak lx.cursor.rest then
      let owner := if k.start.line + 1 == lx.mark.line then lx.mark.index else k.owner
      { lx with comments := lx.comments.pop.push { k with head := k.line, line := [], owner := owner } }
    else lx
  | _, _, _ => lx

def skipToToken (scan : Mark) : Nat → Lexer → Lexer
  | 0, lx => lx
  | fuel + 1, lx =>
    let blank (b : UInt8) := b == byte ' ' || ((lx.inFlow || !lx.keyAllowed) && b == byte '\t')
    let lx := { lx with cursor := (lx.cursor.takeWhile blank).2 }.promoteComment
    let lx := if lx.cursor.current == byte '#' then lx.ownComments scan else lx
    if atBreak lx.cursor.rest then
      skipToToken scan fuel
        { lx with cursor := lx.cursor.skipBreak, keyAllowed := lx.keyAllowed || !lx.inFlow }
    else lx

def closeAll (lx : Lexer) : Except Problem Lexer := do
  let lx ← (lx.unroll (-1) lx.mark).removeKey
  pure { lx with keyAllowed := false }

def fetchStreamEnd (lx : Lexer) : Except Problem Lexer := do
  let m := lx.mark
  let m := if m.column != 0 then { m with column := 0, line := m.line + 1 } else m
  let lx ← { lx with cursor := { lx.cursor with mark := m } }.closeAll
  pure (lx.push ⟨.streamEnd, lx.mark, lx.mark⟩)

def fetchDirective (lx : Lexer) : Except Problem Lexer := do
  let lx ← lx.closeAll
  let (t, c) ← directive lx.cursor
  pure ({ lx with cursor := c }.push t)

def fetchFlowStart (lx : Lexer) (k : TokenKind) : Except Problem Lexer := do
  let lx ← lx.saveKey
  let lx := { lx with keys := none :: lx.keys, keyAllowed := true }
  if lx.flowLevel > 10000 then throw (lx.fault lx.mark .depth)
  pure (lx.pushIndicator 1 k)

def fetchFlowEnd (lx : Lexer) (k : TokenKind) : Except Problem Lexer := do
  let lx ← lx.removeKey
  let keys := if lx.inFlow then lx.keys.tail else lx.keys
  pure ({ lx with keys := keys, keyAllowed := false }.pushIndicator 1 k)

def fetchFlowEntry (lx : Lexer) : Except Problem Lexer := do
  let lx ← lx.removeKey
  pure ({ lx with keyAllowed := true }.pushIndicator 1 .flowEntry)

def fetchBlockEntry (lx : Lexer) : Except Problem Lexer := do
  let lx ←
    if lx.inFlow then pure lx
    else if !lx.keyAllowed then throw (lx.fault lx.mark .sequenceEntryNotAllowed)
    else lx.roll lx.mark.column none .blockSequenceStart lx.mark
  let lx ← lx.removeKey
  pure ({ lx with keyAllowed := true }.pushIndicator 1 .blockEntry)

def fetchKey (lx : Lexer) : Except Problem Lexer := do
  let lx ←
    if lx.inFlow then pure lx
    else if !lx.keyAllowed then throw (lx.fault lx.mark .keyNotAllowed)
    else lx.roll lx.mark.column none .blockMappingStart lx.mark
  let lx ← lx.removeKey
  pure ({ lx with keyAllowed := !lx.inFlow }.pushIndicator 1 .key)

def fetchValue (lx : Lexer) : Except Problem Lexer := do
  let key? ← match lx.currentKey? with
    | none => pure none
    | some k => do
      let possible ← lx.stillPossible k
      pure (if possible then some k else none)
  let lx := lx.setKey none
  let lx ← match key? with
    | some k => do
      let lx := lx.insert k.number ⟨.key, k.mark, k.mark⟩
      let lx ← lx.roll k.mark.column (some k.number) .blockMappingStart k.mark
      pure { lx with keyAllowed := false }
    | none => do
      let lx ←
        if lx.inFlow then pure lx
        else if !lx.keyAllowed then throw (lx.fault lx.mark .valueNotAllowed)
        else lx.roll lx.mark.column none .blockMappingStart lx.mark
      pure { lx with keyAllowed := !lx.inFlow }
  pure (lx.pushIndicator 1 .value)

def fetchAnchor (lx : Lexer) (k : Bytes → TokenKind) : Except Problem Lexer := do
  let lx ← lx.saveKey
  let (name, c) ← anchorName lx.cursor
  pure ({ lx with keyAllowed := false, cursor := c }.push ⟨k name, lx.mark, c.mark⟩)

def fetchTag (lx : Lexer) : Except Problem Lexer := do
  let lx ← lx.saveKey
  let (handle, suffix, c) ← tag lx.cursor
  pure ({ lx with keyAllowed := false, cursor := c }.push ⟨.tag handle suffix, lx.mark, c.mark⟩)

def fetchBlockScalar (lx : Lexer) (literal : Bool) : Except Problem Lexer := do
  let lx ← lx.removeKey
  let start := lx.mark
  let (chomp, increment, c) ← takeIndicators start lx.cursor.skip
  let lx := { lx with cursor := c.skipBlanks }
  let lx := if lx.cursor.current == byte '#' then lx.lineComment start.index else lx
  if !atLineEnd lx.cursor.rest then throw (lx.fault start .blockHeader)
  let s ← blockBody literal chomp increment lx.indent start lx.cursor.skipBreak
  pure ({ lx with keyAllowed := true, cursor := s.cursor }.push
    ⟨.scalar s.text (if literal then .literal else .folded), start, s.cursor.mark⟩)

def fetchQuoted (lx : Lexer) (single : Bool) : Except Problem Lexer := do
  let lx ← lx.saveKey
  let s ← quoted single lx.cursor
  pure ({ lx with keyAllowed := false, cursor := s.cursor }.push
    ⟨.scalar s.text (if single then .single else .double), lx.mark, s.cursor.mark⟩)

def fetchPlain (lx : Lexer) : Except Problem Lexer := do
  let lx ← lx.saveKey
  let s ← plain lx.inFlow (lx.indent + 1).toNat lx.cursor
  pure ({ lx with keyAllowed := s.broken, cursor := s.cursor }.push
    ⟨.scalar s.text .plain, lx.mark, s.cursor.mark⟩)

def startsPlain (lx : Lexer) : Bool :=
  let b := lx.cursor.current
  let next := lx.cursor.rest.drop 1
  !(atGap lx.cursor.rest || (utf8 "-?:,[]\x7b\x7d#&*!|>'\"%@\x60").contains b) ||
    (b == byte '-' && !atBlank next) ||
    (!lx.inFlow && (b == byte '?' || b == byte ':') && !atGap next)

/-- Reads the token here, which is neither the end nor between documents. -/
def fetchToken (lx : Lexer) : Except Problem Lexer :=
  let b := lx.cursor.current
  let gap := atGap (lx.cursor.rest.drop 1)
  if b == byte '[' then lx.fetchFlowStart .flowSequenceStart
  else if b == byte '\x7b' then lx.fetchFlowStart .flowMappingStart
  else if b == byte ']' then lx.fetchFlowEnd .flowSequenceEnd
  else if b == byte '\x7d' then lx.fetchFlowEnd .flowMappingEnd
  else if b == byte ',' then lx.fetchFlowEntry
  else if b == byte '-' && gap then lx.fetchBlockEntry
  else if b == byte '?' && (lx.inFlow || gap) then lx.fetchKey
  else if b == byte ':' && (lx.inFlow || gap) then lx.fetchValue
  else if b == byte '*' then lx.fetchAnchor .aliasOf
  else if b == byte '&' then lx.fetchAnchor .anchor
  else if b == byte '!' then lx.fetchTag
  else if b == byte '|' && !lx.inFlow then lx.fetchBlockScalar true
  else if b == byte '>' && !lx.inFlow then lx.fetchBlockScalar false
  else if b == byte '\'' then lx.fetchQuoted true
  else if b == byte '"' then lx.fetchQuoted false
  else if lx.startsPlain then lx.fetchPlain
  else .error (lx.fault lx.mark .noToken)

/-- Reads the next token, with the tokens that close blocks ahead of it and the comment behind it. -/
def fetch (lx : Lexer) : Except Problem Lexer :=
  if !lx.started then .ok ({ lx with started := true }.push ⟨.streamStart, lx.mark, lx.mark⟩)
  else
    let scan := lx.mark
    let lx := skipToToken scan (lx.cursor.rest.length + 1) lx
    let lx := lx.unroll lx.mark.column scan
    let b := lx.cursor.current
    if lx.cursor.atEnd then lx.fetchStreamEnd
    else if lx.mark.column == 0 && b == byte '%' then lx.fetchDirective
    else if lx.mark.column == 0 && atDocumentMark lx.cursor.rest then do
      let lx ← lx.closeAll
      pure (lx.pushIndicator 3 (if b == byte '-' then .documentStart else .documentEnd))
    else
      let ownsPrevious := if lx.inFlow then b == byte ',' else b == byte ':'
      let owner :=
        match lx.tokens.back? with
        | some t => if ownsPrevious then t.start.index else lx.mark.index
        | none => lx.mark.index
      do
        let lx ← lx.fetchToken
        pure (if lx.lastKind? == some .blockEntry then lx else lx.lineComment owner)

def isSettled (lx : Lexer) : Except Problem Bool :=
  if lx.taken + lx.dialect.ahead < lx.tokens.size then
    match lx.keys.find? (fun k => k.any (·.number == lx.taken)) with
    | some (some k) => (lx.stillPossible k).map (!·)
    | _ => .ok true
  else .ok false

def settleUpTo : Nat → Lexer → Except Problem Lexer
  | 0, lx => .ok lx
  | fuel + 1, lx => do
    let settled ← lx.isSettled
    if settled then pure lx
    else
      let lx ← lx.fetch
      settleUpTo fuel lx

def settle (lx : Lexer) : Except Problem Lexer := settleUpTo (lx.cursor.rest.length + 8) lx

end MarkdownTidy.Yaml.Lexer
