import MarkdownTidy.Document.Frame
import MarkdownTidy.Document.HtmlBlock
import MarkdownTidy.Document.Marker

/-! Opening blocks: which block each rule begins at a position of a line. -/

namespace MarkdownTidy

/-- The block that new blocks go into. -/
inductive Holder where
  | document
  /-- A list, with the content offset of its last item. -/
  | list (offset : Nat)
  | other
  deriving DecidableEq, Repr

/-- What a rule has to know about its surroundings. -/
structure Place where
  holder : Holder
  /-- Whether the innermost open block is a list. -/
  lastIsList : Bool
  /-- Whether the innermost open block is a paragraph. -/
  lastIsParagraph : Bool
  /-- Whether the innermost open block lies directly in the holder. -/
  lastIsInHolder : Bool

/-- A block that was opened, and where its content begins. -/
structure Opened where
  block : OpenBlock
  lines : List Span := []
  cursor : LineCursor
  /-- Whether more blocks may begin inside it on the same line. -/
  descend : Bool := false
  /-- Whether the block is a heading that takes its text from the paragraph before it. -/
  takesParagraph : Bool := false

namespace Opening

def blockOffset? (c : LineCursor) : Option Nat :=
  let line := c.rest
  let (width, count) := Indent.measure line c.column
  if width ≥ line.length then none else some count

def setextHeading (place : Place) (c : LineCursor) : Option Opened :=
  if place.lastIsParagraph && place.lastIsInHolder then
    (underlineLevel? c.rest).map fun level =>
      { block := .heading level, cursor := c, takesParagraph := true }
  else none

def thematicBreak (c : LineCursor) : Option Opened :=
  if isThematicBreak c.rest c.column then
    some { block := .thematicBreak, cursor := c.toLastByte }
  else none

/-- A list begins where a list marker stands. Only a list that starts with one, and with an item that
is not empty, may follow a paragraph directly. -/
def list (place : Place) (c : LineCursor) : Option Opened :=
  match ListMarker.read? c.rest with
  | none => none
  | some m =>
    if place.lastIsParagraph && place.lastIsInHolder &&
        ((m.ordered && m.number != 1) || m.isEmpty) then none
    else some { block := .list m.mark m.number, cursor := c, descend := true }

def listItem (place : Place) (c : LineCursor) : Option Opened :=
  match place.holder, ListMarker.read? c.rest with
  | .list offset, some m =>
    if m.indent > offset + 3 then none
    else
      let gap := m.gap
      let block := OpenBlock.listItem (m.stop + gap)
      if m.isEmpty then some { block := block, cursor := c }
      else
        let (count, padding) := (Indent.take? m.rest m.stop 0 gap).getD (0, 0)
        some { block := block, cursor := c.advancePadded (m.stop + count) padding, descend := true }
  | _, _ => none

def codeSpan (c : LineCursor) (span : Span) (indent : Nat) : Span :=
  if span.padding != 0 && c.tabBeginsAt (c.column + indent) then
    ⟨span.start - 1, span.stop, 0⟩
  else span

def codeBlock (c : LineCursor) : Option Opened :=
  let line := c.rest
  match Indent.take? line c.column 0 4 with
  | none => none
  | some (count, padding) =>
    if Bytes.isBlank line then none
    else
      let c := c.advancePadded count padding
      let span := codeSpan c c.span 0
      some { block := .codeBlock, lines := [span], cursor := c.advance (span.length - 1) }

def headingStop (line : Bytes) (start stop : Nat) : Nat :=
  if stop ≤ start then start
  else
    let closing := ((Bytes.slice line start stop).reverse.takeWhile (· == byte '#')).length
    let opens := (line.drop (stop - closing - 1)).headD 0
    if closing > 0 && Bytes.isSpace opens then stop - closing else stop

def atxHeading (c : LineCursor) : Option Opened :=
  match blockOffset? c with
  | none => none
  | some pos =>
    let line := c.rest
    let level := ((line.drop pos).takeWhile (· == byte '#')).length
    let after := line.drop (pos + level)
    if level == 0 || level > 6 then none
    else if after.isEmpty then some { block := .heading level, cursor := c }
    else
      let gap := (after.takeWhile Bytes.isSpace).length
      if gap == 0 then none
      else
        let start := min (pos + level + gap) (line.length - 1)
        let stop := headingStop line start (Bytes.trimRight Bytes.isSpace line).length
        let text := Bytes.slice line start stop
        let base := c.span.start - c.padding
        let lines :=
          if (Bytes.trimRight (· == byte '#') text).isEmpty then []
          else [⟨base + start, base + stop, 0⟩]
        some { block := .heading level, lines := lines, cursor := c }

def fencedCode (c : LineCursor) : Option Opened :=
  match blockOffset? c with
  | none => none
  | some pos =>
    let line := c.rest
    match line.drop pos with
    | [] => none
    | mark :: _ =>
      let length := ((line.drop pos).takeWhile (· == mark)).length
      let rest := line.drop (pos + length)
      let left := (rest.takeWhile Bytes.isSpace).length
      let right := rest.length - (Bytes.trimRight Bytes.isSpace rest).length
      let hasInfo := rest.length > 1 && left < rest.length - right
      let value := Bytes.slice rest left (rest.length - right)
      if (mark != byte '`' && mark != byte '~') || length < 3 then none
      else if hasInfo && mark == byte '`' && value.contains (byte '`') then none
      else
        let start := c.span.start - c.padding + pos + length + left
        let stop := c.span.stop - right
        let info := if hasInfo && start != stop then some ⟨start, stop, 0⟩ else none
        some { block := .fencedCode info mark pos length, cursor := c }

def quoteMarker? (c : LineCursor) : Option LineCursor :=
  let line := c.rest
  let (width, count) := Indent.measure line c.column
  if width > 3 || (line.drop count).head? != some (byte '>') then none
  else
    let inner := c.advance (count + 1)
    match line.drop (count + 1) with
    | b :: _ =>
      if b == byte ' ' then some (inner.advance 1)
      else if b == byte '\t' then
        some (inner.advancePadded 1 (Indent.tabWidth inner.column - 1))
      else some inner
    | [] => some inner

def blockquote (c : LineCursor) : Option Opened :=
  (quoteMarker? c).map fun inner => { block := .blockquote, cursor := inner, descend := true }

def html (place : Place) (c : LineCursor) : Option Opened :=
  match blockOffset? c with
  | none => none
  | some _ =>
    (HtmlBlock.kind? c.rest place.lastIsParagraph).map fun type =>
      { block := .html type none, lines := [c.span], cursor := c.toLastByte }

/-- A footnote definition begins with a label in brackets after a caret, and a colon. -/
def footnote (source : Bytes) (c : LineCursor) : Option Opened :=
  match blockOffset? c with
  | none => none
  | some pos =>
    let line := c.rest
    if !(utf8 "[^").isPrefixOf (line.drop pos) then none
    else
      match searchLine (byte '[') (byte ']') 0 false (line.drop (pos + 2)) with
      | .found n =>
        let next := pos + 2 + n + 1
        if (line.drop next).head? != some (byte ':') then none
        else
          let base := c.span.start - c.padding
          let label := Bytes.slice source (base + pos + 2) (base + pos + 2 + n)
          if Bytes.isBlank label then none
          else
            let count := next + 1 - c.padding
            if count ≥ line.length then
              some { block := .footnote label, cursor := c.advance count }
            else
              some { block := .footnote label, cursor := c.advancePadded count c.padding,
                     descend := true }
      | _ => none

def paragraph (source : Bytes) (c : LineCursor) : Option Opened :=
  let span := c.span.trimLeft source
  if span.isEmpty then none
  else some { block := .paragraph, lines := [span], cursor := c.toLastByte }

def tokenize (s : ShortcodeSource) (names : MarkdownAttributes) (value : Bytes) :
    Option (Nat × Shortcode) × MarkdownAttributes :=
  match s.own with
  | some own => ((s.reader.tokenize? own value).1, names)
  | none => s.reader.tokenize? names value

def shortcodeAt (s : ShortcodeSource) (source : Bytes) (holder : Holder) (names : MarkdownAttributes)
    (c : LineCursor) : Option (Shortcode × Nat) × MarkdownAttributes :=
  match blockOffset? c with
  | none => (none, names)
  | some pos =>
    let start := c.span.start + pos
    let value := if holder == .document then source.drop start else c.rest.drop pos
    let (found, names) := tokenize s names value
    (found.map fun (n, payload) => (payload, start + n), names)

/-- Nothing but blanks may follow a shortcode on its last line. -/
def shortcode (s : ShortcodeSource) (source : Bytes) (holder : Holder)
    (names : MarkdownAttributes) (c : LineCursor) : Option Opened × MarkdownAttributes :=
  let (found, names) := shortcodeAt s source holder names c
  (found.bind fun (payload, stop) =>
    if stop ≤ source.length && Bytes.isBlank ((source.drop stop).takeWhile (· != Bytes.newline)) then
      some { block := .shortcode payload stop, cursor := c.toLastByte }
    else none, names)

def shortcodeOverrun? (s : ShortcodeSource) (source : Bytes) (holder : Holder)
    (names : MarkdownAttributes) (c : LineCursor) : Option Overrun :=
  (shortcodeAt s source holder names c).1.bind fun (_, stop) =>
    if stop ≤ source.length then none else some ⟨stop, source.length⟩

def isSeparator (line : Bytes) : Bool :=
  (Bytes.trim Bytes.isTrimmed line).all (· == byte '-')

def frontMatter (problem? : Bytes → Option Bytes) (c : LineCursor) : Option Opened :=
  if c.number == 0 && isSeparator c.rest then
    some { block := .frontMatter problem?, cursor := c }
  else none

/-- Tries one rule. -/
def try_ (source : Bytes) (place : Place) (ctx : BlockContext) (c : LineCursor) (r : BlockRule) :
    BlockContext × Option Opened :=
  match r with
  | .setextHeading => (ctx, setextHeading place c)
  | .thematicBreak => (ctx, thematicBreak c)
  | .list =>
    if place.lastIsList || ctx.atNewItem then ({ ctx with atNewItem := false }, none)
    else
      match list place c with
      | none => (ctx, none)
      | some o => ({ ctx with emptyItem := false }, some o)
  | .listItem =>
    match listItem place c with
    | none => (ctx, none)
    | some o => ({ ctx with emptyItem := false }, some o)
  | .codeBlock => (ctx, codeBlock c)
  | .atxHeading => (ctx, atxHeading c)
  | .fencedCode => (ctx, fencedCode c)
  | .blockquote => (ctx, blockquote c)
  | .html => (ctx, html place c)
  | .footnote => (ctx, footnote source c)
  | .paragraph => (ctx, paragraph source c)
  | .shortcode s =>
    let overrun? := ctx.overrun?.or (shortcodeOverrun? s source place.holder ctx.names c)
    let (o, names) := shortcode s source place.holder ctx.names c
    ({ ctx with names := names, overrun? := overrun? }, o)
  | .frontMatter problem? => (ctx, frontMatter problem? c)
  | .never _ => (ctx, none)

def firstOf (source : Bytes) (place : Place) (c : LineCursor) :
    BlockContext → List BlockRule → BlockContext × Option Opened
  | ctx, [] => (ctx, none)
  | ctx, r :: rs =>
    match try_ source place ctx c r with
    | (ctx, some o) => (ctx, some o)
    | (ctx, none) => firstOf source place c ctx rs

end Opening

end MarkdownTidy
