import MarkdownTidy.Yaml.Lexer.Basic

/-! Comments. One on the line of a token belongs to that token. Of those on lines of their own, what
stands right below a token, or in a column left of the block, is its foot, and the rest is the head
of what follows. -/

namespace MarkdownTidy.Yaml.Lexer

def lineComment (lx : Lexer) (owner : Nat) : Lexer :=
  let blanks := (lx.cursor.rest.takeWhile isBlank).length
  if lx.cursor.breaks > 0 || blanks ≥ 512 || (lx.cursor.rest.drop blanks).head? != some (byte '#') then
    lx
  else
    let c := lx.cursor.skipBlanks
    let start := c.mark
    let (text, c) := c.takeLine
    if lx.dialect.comments then
      { lx with cursor := c
                comments := lx.comments.push { owner := owner, start := start, line := text } }
    else { lx with cursor := c }

/-- The state of reading comments on lines of their own: the comment lines joined so far, and how
far past the cursor has been looked. -/
structure CommentScan where
  cursor : Cursor
  ahead : Nat := 0
  line : Nat
  column : Nat
  text : Bytes := []
  start : Mark := {}
  scan : Nat
  owner : Nat
  /-- No empty line has been seen yet. -/
  firstEmpty : Bool
  /-- The line before was empty. -/
  afterEmpty : Bool := false
  found : Array Comment := #[]

namespace CommentScan

def foot (s : CommentScan) (owner : Nat) : CommentScan :=
  let here := s.cursor.mark.index + s.ahead
  let comment : Comment :=
    { scan := s.scan, owner := owner, start := s.start, stop := here, foot := s.text }
  { s with found := s.found.push comment, scan := here, owner := here, text := [] }

def finish (s : CommentScan) : CommentScan :=
  if s.text.isEmpty then s
  else
    let comment : Comment :=
      { scan := s.scan, owner := s.start.index, start := s.start
        stop := s.cursor.mark.index + s.ahead - 1, head := s.text }
    { s with found := s.found.push comment }

def advance (stop : Nat) : Nat → Cursor → Cursor
  | 0, c => c
  | fuel + 1, c =>
    if c.mark.index ≥ stop then c
    else if atBreak c.rest then advance stop fuel c.skipBreak
    else advance stop fuel c.skip

/-- Goes on reading comments. `indent` is the column of the block, `footLine` the line on which a
comment can be the foot of the token before, if there is one, and `flow` says whether a closing
bracket ends the comments. -/
def run (indent : Nat) (footLine : Option Int) (flow : Bool) : Nat → CommentScan → CommentScan
  | 0, s => s.finish
  | fuel + 1, s =>
    if s.ahead ≥ 512 then s.finish
    else
      let view := s.cursor.rest.drop s.ahead
      let column := s.column + 1
      let c := view.headD 0
      let closing := flow && (c == byte ']' || c == byte '\x7d')
      let dedented := s.start.column < indent + 1
      if atBlank view then run indent footLine flow fuel { s with ahead := s.ahead + 1, column := column }
      else if closing || atLineEnd view then
        let t := { s with column := column }
        let t :=
          if !(closing || !s.afterEmpty) then t
          else if closing || (s.firstEmpty && (some (s.start.line : Int) == footLine || dedented)) then
            if s.text.isEmpty then t else t.foot (if dedented then s.start.index else s.owner)
          else if s.text.isEmpty || view.isEmpty then t
          else { t with text := s.text ++ [Bytes.newline] }
        if !atBreak view then t.finish
        else
          run indent footLine flow fuel
            { t with firstEmpty := false, afterEmpty := true, column := 0, line := t.line + 1
                     ahead := t.ahead + 1 }
      else
        let t := { s with column := column }
        let t :=
          if !s.text.isEmpty && column < indent + 1 && column != s.start.column then t.foot s.owner
          else t
        if c != byte '#' then t.finish
        else
          let here := s.cursor.mark.index + s.ahead
          let t :=
            if t.text.isEmpty then { t with start := ⟨here, t.line, column⟩ }
            else { t with text := t.text ++ [Bytes.newline] }
          let (line, cursor) := (advance here t.cursor.rest.length t.cursor).takeLine
          run indent footLine flow fuel
            { t with cursor := cursor, text := t.text ++ line, afterEmpty := false, ahead := 1
                     column := 0, line := cursor.mark.line }

end CommentScan

/-- Reads the comments here; white space was read since `scan`. -/
def ownComments (lx : Lexer) (scan : Mark) : Lexer :=
  if !lx.dialect.comments then { lx with cursor := lx.cursor.takeLine.2 }
  else
    let n := lx.tokens.size
    let last := lx.tokens.back?
    let token :=
      if n > 1 && last.map (·.kind) == some .flowEntry then lx.tokens[n - 2]? else last
    let afterValue := token.map (·.kind) == some .value
    let mark := lx.mark
    let footLine : Option Int :=
      if afterValue || scan.column == 0 then none
      else
        let line : Int := mark.line - lx.cursor.breaks + 1
        some (if lx.cursor.breaks == 0 && mark.column > 1 then line + 1 else line)
    let s := CommentScan.run lx.indent.toNat footLine lx.inFlow (2 * lx.cursor.rest.length + 1024)
      { cursor := lx.cursor, line := mark.line, column := mark.column, scan := scan.index
        owner := (token.map (·.start.index)).getD 0, firstEmpty := lx.cursor.breaks ≤ 1 }
    { lx with cursor := s.cursor, comments := lx.comments ++ s.found }

end MarkdownTidy.Yaml.Lexer
