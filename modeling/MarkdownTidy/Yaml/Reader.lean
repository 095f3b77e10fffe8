import MarkdownTidy.Yaml.Lexer.Fetch
import MarkdownTidy.Yaml.Resolve
import MarkdownTidy.Yaml.Source

/-! Reading the first document of a stream as a node. -/

namespace MarkdownTidy.Yaml

structure Reader where
  lexer : Lexer
  /-- Comments waiting for a node to belong to. -/
  remarks : Remarks := {}
  /-- The comment ahead of a sequence entry that holds a block, which belongs to the block. -/
  stem : Bytes := []
  /-- What tag handles stand for. -/
  handles : List (Bytes × Bytes) := []
  /-- The number of the node each anchor names, latest first. -/
  anchors : List (Bytes × Nat) := []
  /-- The anchored nodes that have been read. -/
  anchored : Array (Option Node) := #[]

abbrev Read := StateT Reader (Except Problem)

namespace Read

/-! ### Tokens and comments -/

def joinRemark (a b : Bytes) : Bytes :=
  if b.isEmpty then a else if a.isEmpty then b else a ++ [Bytes.newline] ++ b

/-- Takes up the comments that belong to a token. Comments ahead of something do not belong to the
end of a block. -/
def takeUpUpTo (t : Token) : Nat → Reader → Reader
  | 0, r => r
  | fuel + 1, r =>
    match r.lexer.comments[r.lexer.placed]? with
    | none => r
    | some k =>
      if t.start.index < k.owner || (!k.head.isEmpty && t.kind == .blockEnd) then r
      else
        takeUpUpTo t fuel
          { r with
            lexer := { r.lexer with
              placed := r.lexer.placed + 1
              comments := r.lexer.comments.setIfInBounds r.lexer.placed {} }
            remarks :=
              { head := joinRemark r.remarks.head k.head
                line := joinRemark r.remarks.line k.line
                foot := joinRemark r.remarks.foot k.foot } }

def peek : Read Token := do
  let r ← get
  let lexer ← r.lexer.settle
  let t := lexer.tokens.getD lexer.taken ⟨.streamEnd, lexer.mark, lexer.mark⟩
  set (takeUpUpTo t lexer.comments.size { r with lexer := lexer })
  pure t

def advance : Read Unit :=
  modify fun r => { r with lexer := { r.lexer with taken := r.lexer.taken + 1 } }

def remarks : Read Remarks := do
  let r ← get
  set { r with remarks := {}, stem := [] }
  pure r.remarks

def fail {α : Type} (f : Fault) (start found : Mark) : Read α := throw (.ofNode f start found)

/-! ### Nodes -/

/-- The anchor and the tag written ahead of a node. -/
structure Properties where
  anchor : Bytes := []
  tag : Bytes := []
  start : Mark

def traits (p : Properties) (line : Nat) (default : Bytes) (remarks : Remarks) : Traits :=
  let written := !p.tag.isEmpty && p.tag != utf8 "!"
  { tag := if written then Tag.short p.tag else default
    tagged := written, anchor := p.anchor, line := line + 1, remarks := remarks }

def declareAnchor (name : Bytes) : Read (Option Nat) := do
  if name.isEmpty then pure none
  else
    let r ← get
    let n := r.anchored.size
    set { r with anchors := (name, n) :: r.anchors, anchored := r.anchored.push none }
    pure (some n)

def finishAnchor (number? : Option Nat) (n : Node) : Read Node := do
  match number? with
  | none => pure n
  | some i => do
    modify fun r => { r with anchored := r.anchored.setIfInBounds i (some n) }
    pure n

def absent (m : Mark) : Node := .scalar { tag := Tag.null, line := m.line + 1 } .plain []

def scalarNode (p : Properties) (style : ScalarStyle) (value : Bytes) (remarks : Remarks) :
    Read Node := do
  let default :=
    if style != .plain then Tag.str
    else if value == utf8 "<<" then Tag.merge
    else Resolve.tagOf value
  let number? ← declareAnchor p.anchor
  finishAnchor number? (.scalar (traits p p.start.line default remarks) style value)

def aliasNode (name : Bytes) (m : Mark) (remarks : Remarks) : Read Node := do
  let r ← get
  match r.anchors.lookup name with
  | none => throw (.ofValue (.unknownAnchor name))
  | some i => pure (.aliasOf { tag := [], line := m.line + 1, remarks := remarks } name i)

def resolveTag (handle suffix : Bytes) (start m : Mark) : Read Bytes := do
  if handle.isEmpty then pure suffix
  else
    let r ← get
    match r.handles.lookup handle with
    | some stem =>
      if (stem ++ suffix).isEmpty then fail .undefinedTag start m else pure (stem ++ suffix)
    | none => fail .undefinedTag start m

/-- The properties here, in either order. -/
def properties : Read Properties := do
  let t ← peek
  match t.kind with
  | .anchor name => do
    advance
    let u ← peek
    match u.kind with
    | .tag handle suffix => do
      advance
      let _ ← peek
      let tag ← resolveTag handle suffix t.start u.start
      pure ⟨name, tag, t.start⟩
    | _ => pure { anchor := name, start := t.start }
  | .tag handle suffix => do
    advance
    let u ← peek
    match u.kind with
    | .anchor name => do
      advance
      let _ ← peek
      let tag ← resolveTag handle suffix t.start t.start
      pure ⟨name, tag, t.start⟩
    | _ => do
      let tag ← resolveTag handle suffix t.start t.start
      pure { tag := tag, start := t.start }
  | _ => pure { start := t.start }

def splitStem (length : Nat) : Read Unit := do
  if length == 0 then pure ()
  else
    let t ← peek
    if t.kind == .blockSequenceStart || t.kind == .blockMappingStart then
      modify fun r =>
        let head := r.remarks.head
        { r with
          stem := head.take length
          remarks := { r.remarks with
            head := if head.length == length then [] else head.drop (length + 1) } }
    else pure ()

def takeStem : Read Remarks := do
  let r ← get
  set { r with stem := [] }
  pure { head := r.stem }

def joinFeet (key value : Node) : Node × Node :=
  if key.foot.isEmpty && !value.foot.isEmpty then (key.setFoot value.foot, value.setFoot [])
  else (key, value)

def footLast (foot : Bytes) : List (Node × Node) → List (Node × Node)
  | [] => []
  | (k, v) :: rest => (k.setFoot foot, v) :: rest

def addEntry (block : Bool) (latestFirst : List (Node × Node)) (key value : Node) :
    List (Node × Node) :=
  if block && !key.foot.isEmpty && !latestFirst.isEmpty then
    joinFeet (key.setFoot []) value :: footLast key.foot latestFirst
  else joinFeet key value :: latestFirst

def collectionTraits (t : Traits) (atEnd : Remarks) : Traits :=
  { t with remarks := { t.remarks with line := atEnd.line, foot := atEnd.foot } }

def noContent (p : Properties) (t : Token) : Read Node :=
  if !p.anchor.isEmpty || !p.tag.isEmpty then scalarNode p .plain [] {}
  else fail .nodeContent p.start t.start

mutual

/-- The node here, with fuel for its parts. A sequence in a mapping need not be indented. -/
def node (fuel : Nat) (block indentless : Bool) : Read Node := do
  match fuel with
  | 0 => pure (absent {})
  | fuel + 1 =>
    let t ← peek
    match t.kind with
    | .aliasOf name => do
      let rs ← remarks
      advance
      aliasNode name t.start rs
    | _ => do
      let p ← properties
      let t ← peek
      match t.kind with
      | .blockEntry =>
        if indentless then do
          let number? ← declareAnchor p.anchor
          let items ← indentlessItems fuel []
          finishAnchor number? (.sequence (traits p p.start.line Tag.seq {}) false items)
        else noContent p t
      | .scalar value style => do
        let rs ← remarks
        advance
        scalarNode p style value rs
      | .flowSequenceStart => do
        let rs ← remarks
        let number? ← declareAnchor p.anchor
        advance
        let (items, atEnd) ← flowItems fuel t.start true []
        let tr := collectionTraits (traits p p.start.line Tag.seq rs) atEnd
        finishAnchor number? (.sequence tr true items)
      | .flowMappingStart => do
        let rs ← remarks
        let number? ← declareAnchor p.anchor
        advance
        let (entries, atEnd) ← flowEntries fuel t.start true []
        let tr := collectionTraits (traits p p.start.line Tag.map rs) atEnd
        finishAnchor number? (.mapping tr true entries)
      | .blockSequenceStart =>
        if block then do
          let rs ← takeStem
          let number? ← declareAnchor p.anchor
          advance
          let items ← blockItems fuel t.start []
          finishAnchor number? (.sequence (traits p p.start.line Tag.seq rs) false items)
        else noContent p t
      | .blockMappingStart =>
        if block then do
          let rs ← takeStem
          let number? ← declareAnchor p.anchor
          advance
          let (entries, atEnd) ← blockEntries fuel t.start []
          let tr := collectionTraits (traits p p.start.line Tag.map rs) atEnd
          finishAnchor number? (.mapping tr false entries)
        else noContent p t
      | _ => noContent p t

/-- The entries of a block sequence that began at `start`. -/
def blockItems (fuel : Nat) (start : Mark) (latestFirst : List Node) : Read (List Node) := do
  match fuel with
  | 0 => pure latestFirst.reverse
  | fuel + 1 =>
    let t ← peek
    match t.kind with
    | .blockEntry => do
      let length := (← get).remarks.head.length
      advance
      splitStem length
      let u ← peek
      let item ←
        if u.kind == .blockEntry || u.kind == .blockEnd then pure (absent t.stop)
        else node fuel true false
      blockItems fuel start (item :: latestFirst)
    | .blockEnd => do
      advance
      pure latestFirst.reverse
    | _ => fail .dash start t.start

/-- The entries of a sequence that is not indented. -/
def indentlessItems (fuel : Nat) (latestFirst : List Node) : Read (List Node) := do
  match fuel with
  | 0 => pure latestFirst.reverse
  | fuel + 1 =>
    let t ← peek
    match t.kind with
    | .blockEntry => do
      let length := (← get).remarks.head.length
      advance
      splitStem length
      let u ← peek
      let item ←
        if [TokenKind.blockEntry, .key, .value, .blockEnd].contains u.kind then pure (absent t.stop)
        else node fuel true false
      indentlessItems fuel (item :: latestFirst)
    | _ => pure latestFirst.reverse

/-- The entries of a block mapping that began at `start`, and the comments at its end. -/
def blockEntries (fuel : Nat) (start : Mark) (latestFirst : List (Node × Node)) :
    Read (List (Node × Node) × Remarks) := do
  match fuel with
  | 0 => pure (latestFirst.reverse, {})
  | fuel + 1 =>
    let ends : List TokenKind := [.key, .value, .blockEnd]
    let t ← peek
    match t.kind with
    | .key => do
      advance
      let u ← peek
      let key ← if ends.contains u.kind then pure (absent t.stop) else node fuel true true
      let t ← peek
      let value ←
        if t.kind == .value then do
          advance
          let u ← peek
          if ends.contains u.kind then pure (absent t.stop) else node fuel true true
        else pure (absent t.start)
      blockEntries fuel start (addEntry true latestFirst key value)
    | .blockEnd => do
      let rs ← remarks
      advance
      if rs.foot.isEmpty || latestFirst.isEmpty then pure (latestFirst.reverse, rs)
      else pure ((footLast rs.foot latestFirst).reverse, { rs with foot := [] })
    | _ => fail .key start t.start

/-- The entries of a flow sequence that began at `start`, and the comments at its end. -/
def flowItems (fuel : Nat) (start : Mark) (first : Bool) (latestFirst : List Node) :
    Read (List Node × Remarks) := do
  match fuel with
  | 0 => pure (latestFirst.reverse, {})
  | fuel + 1 =>
    let t ← peek
    let t ←
      if t.kind == .flowSequenceEnd || first then pure t
      else if t.kind == .flowEntry then do
        advance
        peek
      else fail .flowSequenceEntry start t.start
    match t.kind with
    | .flowSequenceEnd => do
      let rs ← remarks
      advance
      pure (latestFirst.reverse, rs)
    | .key => do
      advance
      let entry ← flowPair fuel
      let item : Node := .mapping { tag := Tag.map, line := t.start.line + 1 } true [entry]
      flowItems fuel start false (item :: latestFirst)
    | _ => do
      let item ← node fuel false false
      flowItems fuel start false (item :: latestFirst)

/-- The key and value of an entry of a flow sequence. -/
def flowPair (fuel : Nat) : Read (Node × Node) := do
  match fuel with
  | 0 => pure (absent {}, absent {})
  | fuel + 1 =>
    let t ← peek
    let key ←
      if [TokenKind.value, .flowEntry, .flowSequenceEnd].contains t.kind then do
        advance
        pure (absent t.stop)
      else node fuel false false
    let t ← peek
    let value ←
      if t.kind == .value then do
        advance
        let u ← peek
        if u.kind == .flowEntry || u.kind == .flowSequenceEnd then pure (absent t.start)
        else node fuel false false
      else pure (absent t.start)
    let _ ← peek
    pure (joinFeet key value)

/-- The entries of a flow mapping that began at `start`, and the comments at its end. -/
def flowEntries (fuel : Nat) (start : Mark) (first : Bool) (latestFirst : List (Node × Node)) :
    Read (List (Node × Node) × Remarks) := do
  match fuel with
  | 0 => pure (latestFirst.reverse, {})
  | fuel + 1 =>
    let t ← peek
    let t ←
      if t.kind == .flowMappingEnd || first then pure t
      else if t.kind == .flowEntry then do
        advance
        peek
      else fail .flowMappingEntry start t.start
    match t.kind with
    | .flowMappingEnd => do
      let rs ← remarks
      advance
      pure (latestFirst.reverse, rs)
    | .key => do
      advance
      let u ← peek
      let key ←
        if [TokenKind.value, .flowEntry, .flowMappingEnd].contains u.kind then pure (absent u.start)
        else node fuel false false
      let t ← peek
      let value ←
        if t.kind == .value then do
          advance
          let u ← peek
          if u.kind == .flowEntry || u.kind == .flowMappingEnd then pure (absent u.start)
          else node fuel false false
        else pure (absent t.start)
      flowEntries fuel start false (addEntry false latestFirst key value)
    | _ => do
      let key ← node fuel false false
      let u ← peek
      flowEntries fuel start false (addEntry false latestFirst key (absent u.start))

end

/-! ### Documents -/

/-- The directives ahead of a document. -/
def directives (fuel : Nat) (versioned : Bool) : Read Unit := do
  match fuel with
  | 0 => pure ()
  | fuel + 1 =>
    let t ← peek
    match t.kind with
    | .version major minor => do
      if versioned then fail .duplicateVersion {} t.start
      if major != 1 || minor != 1 then fail .incompatibleVersion {} t.start
      advance
      directives fuel true
    | .tagDirective handle stem => do
      let r ← get
      if (r.handles.lookup handle).isSome then fail .duplicateTag {} t.start
      set { r with handles := r.handles ++ [(handle, stem)] }
      advance
      directives fuel versioned
    | _ =>
      modify fun r => { r with
        handles := r.handles ++ [(utf8 "!", utf8 "!"), (utf8 "!!", Tag.standard)] }

def lastParagraph (s : Bytes) : Bytes :=
  match Bytes.find? (utf8 "\n\n") s.reverse with
  | some 0 => []
  | some n => if s.getLast? == some Bytes.newline then [] else (s.reverse.take n).reverse
  | none => if s.getLast? == some Bytes.newline && s.length > 1 then [] else s

/-- The root of the first document; `none` when there is no document. -/
def document (fuel : Nat) : Read (Option Node) := do
  let _ ← peek
  advance
  let t ← peek
  match t.kind with
  | .streamEnd => pure none
  | .version .. | .tagDirective .. | .documentStart => do
    directives fuel false
    let t ← peek
    if t.kind != .documentStart then fail .documentStart {} t.start
    advance
    let t ← peek
    match t.kind with
    | .version .. | .tagDirective .. | .documentStart | .documentEnd | .streamEnd =>
      finish (absent t.start)
    | _ => finish (← node fuel true false)
  | _ => do
    directives fuel false
    modify fun r => { r with remarks := { r.remarks with head := lastParagraph r.remarks.head } }
    finish (← node fuel true false)
where
  finish (n : Node) : Read (Option Node) := do
    let _ ← peek
    pure (some n)

end Read

/-- A document: its root and the nodes its aliases refer to. -/
structure Document where
  root : Node
  anchored : Array (Option Node) := #[]
  deriving Inhabited

/-- Reads the first document of a stream; `none` when there is none. -/
def read (d : Dialect) (stream : Bytes) : Except Problem (Option Document) :=
  match Source.read stream with
  | .error f => .error (.ofValue f)
  | .ok text =>
    match Read.document (8 * text.length + 64) { lexer := Lexer.new d text } with
    | .error e => .error e
    | .ok (none, _) => .ok none
    | .ok (some root, r) => .ok (some ⟨root, r.anchored⟩)

end MarkdownTidy.Yaml
