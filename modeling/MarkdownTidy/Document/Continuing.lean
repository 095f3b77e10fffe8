import MarkdownTidy.Document.Opening

/-! Which open blocks a line belongs to. -/

namespace MarkdownTidy

/-- What a line means for an open block: the block ends, or the line belongs to it and its content
goes on at a position. -/
inductive Verdict where
  | close (frame : Frame) (cursor : LineCursor)
  | keep (frame : Frame) (cursor : LineCursor) (container : Bool)

namespace Continuing

/-- A list goes on with a line that is blank, indented to its last item, or begins a new item with the
same marker. A thematic break is never an item, except where it underlines a heading. -/
def list (lastIsParagraph : Bool) (ctx : BlockContext) (f : Frame) (marker : UInt8)
    (offset : Nat) (lastIsEmpty : Bool) (c : LineCursor) : BlockContext × Verdict :=
  let line := c.rest
  let keep : Verdict := .keep f c true
  let close : Verdict := .close f c
  if Bytes.isBlank line then
    (if lastIsEmpty then { ctx with emptyItem := true } else ctx, keep)
  else
    let indent := (Indent.measure line c.column).1
    let rest : Verdict :=
      if indent < offset then close
      else if ctx.emptyItem then close
      else keep
    if (indent < offset || lastIsEmpty) && indent < 4 then
      match ListMarker.read? line with
      | some m =>
        if m.indent < offset + 4 then
          let fromMark := line.drop (m.stop - 1)
          let isUnderline := lastIsParagraph && underlineLevel? fromMark == some 2
          if m.mark != marker then (ctx, close)
          else if isThematicBreak fromMark 0 && !isUnderline then (ctx, close)
          else (ctx, keep)
        else (ctx, rest)
      | none => (ctx, rest)
    else (ctx, rest)

/-- A list item goes on with blank lines and with lines indented to its content. -/
def listItem (ctx : BlockContext) (f : Frame) (offset : Nat) (isEmpty : Bool) (c : LineCursor) :
    BlockContext × Verdict :=
  let line := c.rest
  if Bytes.isBlank line then (ctx, .keep f (c.advance (line.length - 1)) true)
  else
    let isEmpty := isEmpty && ctx.emptyItem
    let indent := (Indent.measure line c.column).1
    let inside : Verdict :=
      match Indent.take? line c.column 0 offset with
      | some (count, padding) => .keep f (c.advancePadded count padding) true
      | none => .keep f c true
    if (isEmpty || indent < offset) && indent < 4 then
      if (ListMarker.read? line).isSome then ({ ctx with atNewItem := true }, .close f c)
      else if !isEmpty then (ctx, .close f c)
      else (ctx, inside)
    else (ctx, inside)

def codeBlock (source : Bytes) (f : Frame) (c : LineCursor) : Verdict :=
  let line := c.rest
  if Bytes.isBlank line then .keep (f.addLine (c.span.dropColumns source 4)) c false
  else
    match Indent.take? line c.column 0 4 with
    | none => .close f c
    | some (count, padding) =>
      let c := c.advancePadded count padding
      let span := Opening.codeSpan c c.span 0
      .keep (f.addLine span) (c.advance (span.length - 1)) false

/-- A fenced block ends with a fence of the same kind that is at least as long. Its lines lose the
indentation of the opening fence. -/
def fencedCode (f : Frame) (mark : UInt8) (indent length : Nat) (c : LineCursor) : Verdict :=
  let line := c.rest
  let span := c.span
  let (width, count) := Indent.measure line c.column
  let run := ((line.drop count).takeWhile (· == mark)).length
  if width < 4 && run ≥ length && Bytes.isBlank (line.drop (count + run)) then
    let size := if line.getLast? == some Bytes.newline then line.length - 1 else line.length
    .close f (c.advance size)
  else
    let (count, padding) :=
      match Indent.take? line c.column span.padding indent with
      | some r => r
      | none => ((Indent.firstNonSpace? line).getD 0, 0)
    let content := Opening.codeSpan c ⟨span.start + count, span.stop, padding⟩ indent
    .keep (f.addLine content) (c.advancePadded (span.stop - span.start - count - 1) padding) false

/-- An HTML block ends with the line that holds its closing text, or before a blank line. -/
def html (source : Bytes) (f : Frame) (type : Nat) (c : LineCursor) : Verdict :=
  let line := c.rest
  let keep : Verdict := .keep (f.addLine c.span) c.toLastByte false
  let endedAtOnce (ends : Bytes → Bool) : Bool :=
    match f.lines with
    | [first] => ends (first.value source)
    | _ => false
  let closed : Frame := { f with block := .html type (some c.span) }
  if type == 1 then
    if endedAtOnce HtmlBlock.endsRaw then .close f c
    else if HtmlBlock.endsRaw line then .close closed (c.advance (Bytes.trimRight Bytes.isSpace line).length)
    else keep
  else if type ≤ 5 then
    let closer := HtmlBlock.closer type
    if endedAtOnce (Bytes.includes · closer) then .close f c
    else if Bytes.includes line closer then .close closed (c.advance c.span.length)
    else keep
  else if Bytes.isBlank line then .close f c
  else keep

def footnote (f : Frame) (c : LineCursor) : Verdict :=
  let line := c.rest
  if Bytes.isBlank line then .keep f c true
  else
    match Indent.take? line c.column 0 4 with
    | none => .close f c
    | some (count, padding) => .keep f (c.advancePadded count padding) true

def frontMatter (f : Frame) (c : LineCursor) : Verdict :=
  let line := c.rest
  if Opening.isSeparator line && !Bytes.isBlank line then .close f (c.advance c.span.length)
  else .keep (f.addLine c.span) c false

def lastItem (f : Frame) (inner : List Frame) : Nat × Bool :=
  match inner with
  | i :: deeper =>
    match i.block with
    | .listItem offset => (offset, i.children.isEmpty && deeper.isEmpty)
    | _ => (0, false)
  | [] =>
    match f.children.getLast? with
    | some n =>
      match n.kind with
      | .listItem offset => (offset, n.children.isEmpty)
      | _ => (0, false)
    | none => (0, true)

/-- What the line means for a block that is not a paragraph; `inner` are the open blocks in it. -/
def block (source : Bytes) (lastIsParagraph : Bool) (ctx : BlockContext) (f : Frame)
    (inner : List Frame) (c : LineCursor) : BlockContext × Verdict :=
  match f.block with
  | .paragraph | .heading _ | .thematicBreak => (ctx, .close f c)
  | .codeBlock => (ctx, codeBlock source f c)
  | .fencedCode _ mark indent length => (ctx, fencedCode f mark indent length c)
  | .blockquote =>
    match Opening.quoteMarker? c with
    | some c => (ctx, .keep f c true)
    | none => (ctx, .close f c)
  | .list marker _ =>
    let (offset, isEmpty) := lastItem f inner
    list lastIsParagraph ctx f marker offset isEmpty c
  | .listItem offset =>
    listItem ctx f offset (f.children.isEmpty && inner.isEmpty) c
  | .html type _ => (ctx, html source f type c)
  | .footnote _ => (ctx, footnote f c)
  | .shortcode _ stop =>
    (ctx, if c.span.start ≥ stop then .close f c else .keep f c.toLastByte false)
  | .frontMatter _ => (ctx, frontMatter f c)

end Continuing

/-- How far a line belongs to the open blocks. -/
inductive Match where
  /-- The source ended. -/
  | ended
  /-- All open blocks go on, and the innermost takes the line as it is. -/
  | taken (frames : List Frame)
  /-- All open blocks go on, and more may begin inside the innermost. -/
  | inside (frames : List Frame) (cursor : LineCursor) (depth : Nat)
  /-- The blocks `kept` go on, those of `left` do not. -/
  | upTo (kept left : List Frame) (cursor : LineCursor)

/-- Walks down the open blocks as far as the line belongs to them. -/
def matchFrames (source : Bytes) (lastIsParagraph : Bool) (number : Nat) :
    BlockContext → LineCursor → Nat → List Frame → List Frame → BlockContext × Match
  | ctx, _, _, kept, [] => (ctx, .taken kept)
  | ctx, c, depth, kept, f :: inner =>
    match c.peek? with
    | none => (ctx, .ended)
    | some line =>
      let ctx := { ctx with stats := ⟨number, depth, Bytes.isBlank line⟩ :: ctx.stats }
      if f.block.isParagraph then (ctx, .upTo kept (f :: inner) c)
      else
        match Continuing.block source lastIsParagraph ctx f inner c with
        | (ctx, .close f c) => (ctx, .upTo kept (f :: inner) c)
        | (ctx, .keep f c container) =>
          if container && inner.isEmpty then (ctx, .inside (kept ++ [f]) c depth)
          else matchFrames source lastIsParagraph number ctx c (depth + 1) (kept ++ [f]) inner

end MarkdownTidy
