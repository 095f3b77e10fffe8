import MarkdownTidy.Document.Continuing

/-! The block structure of a source, line by line. Each line is first matched against the open
blocks; what is left of it opens new blocks, goes on with an open paragraph, or is blank. -/

namespace MarkdownTidy

namespace Holder

def ofBlock : OpenBlock → Holder
  | .list .. => .list 0
  | _ => .other

def ofFrames (kept left : List Frame) : Holder :=
  match kept.getLast? with
  | none => .document
  | some f =>
    match f.block with
    | .list .. => .list (Continuing.lastItem f left).1
    | _ => .other

end Holder

/-- The state of opening blocks on one line. -/
structure OpeningState where
  context : BlockContext
  cursor : LineCursor
  holder : Holder
  /-- The innermost block that was open before the line, while it still is. -/
  last : Option Frame
  /-- Whether that block lies directly in the block new ones are opened in. -/
  lastIsInHolder : Bool
  /-- Whether the line may go on with an open paragraph. -/
  continuable : Bool
  /-- Blocks opened on this line, outermost first. -/
  opened : List Frame := []
  /-- What became of a paragraph that a heading underline closed. -/
  settled : Option (List Node) := none

namespace OpeningState

/-- The surroundings a rule sees. -/
def place (s : OpeningState) : Place :=
  match s.opened.getLast? with
  | some f => ⟨s.holder, f.block.isList, f.block.isParagraph, false⟩
  | none =>
    match s.last with
    | some f => ⟨s.holder, f.block.isList, f.block.isParagraph, s.lastIsInHolder⟩
    | none => ⟨s.holder, false, false, false⟩

/-- The rules that apply to the line. -/
def rules (g : Grammar) (s : OpeningState) (line : Bytes) : List BlockRule :=
  let (width, count) := Indent.measure line s.cursor.column
  let candidates :=
    match line.drop count with
    | b :: _ => g.blockRulesFor b
    | [] => g.block.filter (·.triggers?.isNone)
  candidates.filter fun r =>
    (!(s.continuable && s.opened.isEmpty) || r.interruptsParagraph) &&
      (width ≤ 3 || r.acceptsIndent)

def push (s : OpeningState) (o : Opened) (f : Frame) : OpeningState :=
  { s with cursor := o.cursor, opened := s.opened ++ [f], holder := Holder.ofBlock o.block }

/-- Opens as many blocks as begin on the line. -/
def run (g : Grammar) (source : Bytes) (blank : Bool) : Nat → OpeningState → OpeningState
  | 0, s => s
  | fuel + 1, s =>
    match s.cursor.peek? with
    | none => s
    | some line =>
      if line.head? == some Bytes.newline then s
      else
        match Opening.firstOf source s.place s.cursor s.context (s.rules g line) with
        | (ctx, none) => { s with context := ctx }
        | (ctx, some o) =>
          let s := { s with context := ctx }
          match o.takesParagraph, s.last with
          | true, some p =>
            let (ctx, kept, after) :=
              settleParagraph g source ctx (trimLines source p.lines) p.blankBefore
            let s := { s with
              context := ctx, last := none, lastIsInHolder := false, continuable := false,
              settled := some after }
            match kept with
            | none => run g source blank fuel s
            | some lines =>
              s.push o { block := o.block, blankBefore := p.blankBefore, lines := lines }
          | _, _ =>
            let s := s.push o { block := o.block, blankBefore := blank, lines := o.lines }
            if o.descend then run g source blank fuel s else s

end OpeningState

def openBlocks (g : Grammar) (source : Bytes) (blank : Bool) (ctx : BlockContext) (c : LineCursor)
    (holder : Holder) (last : Option Frame) (lastIsInHolder : Bool) : OpeningState :=
  OpeningState.run g source blank (2 * c.rest.length + 2)
    { context := ctx, cursor := c, holder := holder, last := last, lastIsInHolder := lastIsInHolder,
      continuable := (last.map (·.block.isParagraph)).getD false }

/-- The blocks read so far. -/
structure BlockState where
  context : BlockContext
  cursor : LineCursor
  /-- Closed children of the document. -/
  closed : List Node := []
  /-- Open blocks, outermost first. -/
  frames : List Frame := []

namespace BlockState

def attach (s : BlockState) (frames : List Frame) (nodes : List Node) : BlockState :=
  match frames.getLast? with
  | none => { s with closed := s.closed ++ nodes, frames := [] }
  | some f => { s with frames := frames.dropLast ++ [f.addChildren nodes] }

def continueParagraph? (c : LineCursor) (frames : List Frame) : Option (List Frame) :=
  match frames.getLast? with
  | some f =>
    if f.block.isParagraph && !Bytes.isBlank c.rest then
      some (frames.dropLast ++ [f.addLine c.span])
    else none
  | none => none

def finish (g : Grammar) (source : Bytes) (s : BlockState) : BlockState :=
  let (ctx, nodes) := closeFrames g source s.context s.frames
  { s with context := ctx, closed := s.closed ++ nodes, frames := [] }

/-- Opens blocks after the open blocks `kept`, closing those of `left` unless the line goes on with the
paragraph inside them. -/
def openAfter (g : Grammar) (source : Bytes) (s : BlockState) (blank : Bool)
    (kept left : List Frame) (c : LineCursor) : BlockState :=
  let o := openBlocks g source blank s.context c (Holder.ofFrames kept left)
    (if left.isEmpty then kept.getLast? else left.getLast?) (left.length == 1)
  let s := { s with context := o.context, cursor := o.cursor }
  let lazily :=
    if o.opened.isEmpty && o.continuable then continueParagraph? o.cursor left else none
  match lazily with
  | some left => { s with frames := kept ++ left }
  | none =>
    let (ctx, nodes) :=
      match o.settled with
      | some nodes => (s.context, nodes)
      | none => closeFrames g source s.context left
    let s := { s with context := ctx }.attach kept nodes
    { s with frames := s.frames ++ o.opened }

def readLine (g : Grammar) (source : Bytes) (s : BlockState) : BlockState :=
  let number := s.cursor.number
  let lastIsParagraph := (s.frames.getLast?.map (·.block.isParagraph)).getD false
  match matchFrames source lastIsParagraph number s.context s.cursor 0 [] s.frames with
  | (ctx, .ended) => { s with context := ctx }
  | (ctx, .taken frames) => { s with context := ctx, frames := frames }
  | (ctx, .inside frames c depth) =>
    openAfter g source { s with context := ctx } (ctx.blankBefore number (depth + 1)) frames [] c
  | (ctx, .upTo kept left c) =>
    openAfter g source { s with context := ctx } (ctx.blankBefore number kept.length) kept left c

def skipBlankLines : Nat → LineCursor → Nat → LineCursor × Nat
  | 0, c, n => (c, n)
  | fuel + 1, c, n =>
    match c.peek? with
    | none => (c, n)
    | some line => if Bytes.isBlank line then skipBlankLines fuel c.nextLine (n + 1) else (c, n)

/-- Reads lines, at most `fuel` of them. -/
def readLines (g : Grammar) (source : Bytes) : Nat → BlockState → BlockState
  | 0, s => s.finish g source
  | fuel + 1, s =>
    if s.frames.isEmpty then
      let (c, skipped) := skipBlankLines (s.cursor.later.length + 1) s.cursor 0
      match c.peek? with
      | none => s
      | some _ =>
        let ctx := if skipped != 0 then { s.context with stats := [] } else s.context
        let s := openAfter g source { s with context := ctx } (ctx.blankBefore c.number 0) [] [] c
        if s.frames.isEmpty then s
        else readLines g source fuel { s with cursor := s.cursor.nextLine }
    else
      match s.cursor.peek? with
      | none => s.finish g source
      | some _ =>
        let s := s.readLine g source
        readLines g source fuel { s with cursor := s.cursor.nextLine }

end BlockState

def readBlocks (g : Grammar) (names : MarkdownAttributes) (source : Bytes) :
    List Node × BlockContext :=
  let s : BlockState := { context := { names := names }, cursor := .ofSource source }
  let s := s.readLines g source ((Bytes.lines source).length + 1)
  (s.closed, s.context)

end MarkdownTidy
