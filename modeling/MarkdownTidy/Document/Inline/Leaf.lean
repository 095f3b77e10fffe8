import MarkdownTidy.Document.Inline.State
import MarkdownTidy.Html.Pattern

/-! Inline rules that make a single node: code spans, raw HTML, automatic links, check boxes, footnote
references, alert flags, attribute lists and shortcodes. -/

namespace MarkdownTidy.Inline

/-! ### Code spans -/

def closingTicks? (n : Nat) (i : Nat) (run : Nat) : Bytes → Option (Nat × Nat)
  | [] => if run == n then some (i - run, i) else none
  | b :: rest =>
    if b == byte '`' then closingTicks? n (i + 1) (run + 1) rest
    else if run == n then some (i - run, i)
    else closingTicks? n (i + 1) 0 rest

def codeLines? (n : Nat) : Nat → TextCursor → List Span → Option (List Span × TextCursor)
  | 0, _, _ => none
  | fuel + 1, c, spans =>
    match c.peek? with
    | none => none
    | some line =>
      match closingTicks? n 0 0 line with
      | some (stop, after) =>
        let span := { c.span with stop := c.span.start + stop }
        some (if span.isEmpty then spans else spans ++ [span], c.advance after)
      | none => codeLines? n fuel c.nextLine (spans ++ [c.span])

/-- Takes one space or line feed off both ends, if both have one. -/
def stripCode (source : Bytes) (spans : List Span) : List Span :=
  let isSpace (b : Option UInt8) : Bool := b == some (byte ' ') || b == some Bytes.newline
  let blank := spans.all fun s => Bytes.isBlank (s.value source)
  match spans.head?, spans.getLast? with
  | some first, some last =>
    let strips := !blank && !first.isEmpty && isSpace (source.drop first.start).head? &&
      !last.isEmpty && isSpace (source.drop (last.stop - 1)).head?
    if !strips then spans
    else
      match spans with
      | [s] => [{ s with start := s.start + 1, stop := s.stop - 1 }]
      | s :: rest => { s with start := s.start + 1 } ::
          (rest.dropLast ++ [{ last with stop := last.stop - 1 }])
      | [] => []
  | _, _ => spans

def codeSpan (source : Bytes) (c : TextCursor) : Node × TextCursor :=
  let n := (c.line.takeWhile (· == byte '`')).length
  let inner := c.advance n
  match codeLines? n (c.later.length + 1) inner [] with
  | none => (.ofText ⟨c.pos, c.pos + n, 0⟩, inner)
  | some (spans, after) => (.leaf .codeSpan ((stripCode source spans).map .ofRawText), after)

/-! ### Raw HTML -/

def spansBetween (c e : TextCursor) : List Span :=
  if e.index == c.index then [⟨c.pos, e.pos, 0⟩]
  else
    let passed := c.later.take (e.index - c.index)
    ⟨c.pos, c.pos + c.rest.length, 0⟩ ::
      (passed.dropLast.map (fun l => (⟨l.span.start, l.span.stop, 0⟩ : Span)) ++
        match passed.getLast? with
        | some l => [⟨l.span.start, e.pos, 0⟩]
        | none => [])

def validPart (s : Bytes) : Bytes :=
  ((Utf8.codePoints s).takeWhile fun r => r.code != Utf8.replacement).flatMap (·.bytes)

def rawUntil? (closer : Bytes) : Nat → Nat → TextCursor → List Span → Option (List Span × TextCursor)
  | 0, _, _, _ => none
  | fuel + 1, skip, c, spans =>
    match c.peek? with
    | none => none
    | some line =>
      match Bytes.find? closer (line.drop skip) with
      | some i =>
        let n := skip + i + closer.length
        some (spans ++ [{ c.span with stop := c.span.start + n }], c.advance n)
      | none => rawUntil? closer fuel 0 c.nextLine (spans ++ [c.span])

def rawHtml? (c : TextCursor) : Option (List Span × TextCursor) :=
  let line := c.line
  let second := (line.drop 1).headD 0
  let third := (line.drop 2).headD 0
  let fuel := c.later.length + 1
  let all := validPart (c.rest ++ c.later.flatMap (·.text))
  let tag (length? : Option Nat) : Option (List Span × TextCursor) :=
    length?.map fun n => let e := c.advance n; (spansBetween c e, e)
  if Bytes.isAlphanumeric second then tag (Html.openTagLength? all)
  else if second == byte '/' && Bytes.isAlphanumeric third then tag (Html.closeTagLength? all)
  else if (utf8 "<!--").isPrefixOf line then
    if (utf8 "<!-->").isPrefixOf line then some ([⟨c.pos, c.pos + 5, 0⟩], c.advance 5)
    else if (utf8 "<!--->").isPrefixOf line then some ([⟨c.pos, c.pos + 6, 0⟩], c.advance 6)
    else rawUntil? (utf8 "-->") fuel 4 c []
  else if (utf8 "<?").isPrefixOf line then rawUntil? (utf8 "?>") fuel 0 c []
  else if second == byte '!' && Bytes.isUpper third then rawUntil? (utf8 ">") fuel 0 c []
  else if (utf8 "<![CDATA[").isPrefixOf line then rawUntil? (utf8 "]]>") fuel 0 c []
  else none

/-! ### Automatic links -/

def isMailByte (b : UInt8) : Bool :=
  Bytes.isAlphanumeric b || (utf8 ".!#$%&'*+/=?^_`\x7b|\x7d~-").contains b

def labelLength (s : Bytes) : Nat :=
  if !(s.head?.any Bytes.isAlphanumeric) then 0
  else
    let body := (s.takeWhile fun b => Bytes.isAlphanumeric b || b == byte '-').take 63
    (Bytes.trimRight (· == byte '-') body).length

def domainLength (s : Bytes) : Nat → Nat
  | 0 => 0
  | fuel + 1 =>
    let n := labelLength s
    if n == 0 then 0
    else
      match s.drop n with
      | b :: rest =>
        let m := if b == byte '.' then domainLength rest fuel else 0
        if m == 0 then n else n + 1 + m
      | [] => n

def mailLength? (s : Bytes) : Option Nat :=
  let local_ := (s.takeWhile isMailByte).length
  match s.drop local_ with
  | b :: rest =>
    let domain := domainLength rest rest.length
    if local_ == 0 || b != byte '@' || domain == 0 then none else some (local_ + 1 + domain)
  | [] => none

def isSchemeByte (b : UInt8) : Bool :=
  Bytes.isAlphanumeric b || b == byte '+' || b == byte '-' || b == byte '.'

def urlLength? (s : Bytes) : Option Nat :=
  let scheme := (s.takeWhile isSchemeByte).length
  match s.head?, s.drop scheme with
  | some a, b :: rest =>
    if !Bytes.isLetter a || scheme < 2 || scheme > 33 || b != byte ':' then none
    else
      let inUrl (b : UInt8) : Bool := b > 0x20 && b != byte '<' && b != byte '>'
      some (scheme + 1 + (rest.takeWhile inUrl).length)
  | _, _ => none

def autoLink? (c : TextCursor) : Option (Node × TextCursor) :=
  let body := c.line.drop 1
  let found :=
    match mailLength? body with
    | some n => some (true, n)
    | none => (urlLength? body).map (false, ·)
  match found with
  | none => none
  | some (email, n) =>
    if (body.drop n).head? != some (byte '>') then none
    else
      let label : Span := ⟨c.pos + 1, c.pos + 1 + n, 0⟩
      some (.leaf (.autoLink email [] label) [], c.advance (n + 2))

/-! ### Check boxes, footnotes, alerts -/

def taskCheckBox? (scope : InlineScope) (s : InlineState) (c : TextCursor) :
    Option (Node × TextCursor) :=
  match scope.holder, c.line with
  | .listItem _, _ :: mark :: closing :: rest =>
    let checked := mark == byte 'x' || mark == byte 'X'
    if scope.first && !s.hasPieces && (checked || Bytes.isSpace mark) && closing == byte ']' then
      some (.leaf (.taskCheckBox checked) [], c.advance (3 + (rest.takeWhile Bytes.isSpace).length))
    else none
  | _, _ => none

def footnoteIndex? (m : InlineMemory) (label : Bytes) : Option (Nat × InlineMemory) :=
  match m.footnotes.find? (·.1 == label) with
  | none => none
  | some (_, 0) =>
    let index := (m.footnotes.filter (·.2 != 0)).length + 1
    some (index, { m with footnotes := number index m.footnotes })
  | some (_, index) => some (index, m)
where
  number (index : Nat) : List (Bytes × Nat) → List (Bytes × Nat)
    | [] => []
    | (l, i) :: rest => if l == label then (l, index) :: rest else (l, i) :: number index rest

/-- A reference to a footnote; an exclamation mark in front of it is text. -/
def footnote? (scope : InlineScope) (s : InlineState) (c : TextCursor) :
    Option (InlineState × TextCursor) :=
  let line := c.line
  let marked := line.head? == some (byte '!')
  let at_ := if marked then 2 else 1
  if (line.drop at_).head? != some (byte '^') then none
  else
    match searchLine (byte '[') (byte ']') 0 false (line.drop (at_ + 1)) with
    | .found n =>
      let start := c.pos + at_ + 1
      match footnoteIndex? s.memory (blockValue scope.lines start (start + n)) with
      | none => none
      | some (index, memory) =>
        let node := Node.leaf (.footnoteLink index 0 (memory.links.count index)) []
        let s := if marked then s.pushNode (.ofText ⟨c.pos, c.pos + 1, 0⟩) else s
        let s := { s with memory := { memory with links := memory.links ++ [index] } }
        some (s.pushNode node, c.advance (at_ + 1 + n + 1))
    | _ => none

def alertNames : List Bytes := ["NOTE", "TIP", "IMPORTANT", "WARNING", "CAUTION"].map utf8

def alert? (scope : InlineScope) (s : InlineState) (c : TextCursor) : Option (Node × TextCursor) :=
  let line := c.line
  match Bytes.indexOf? (byte ']') line with
  | none => none
  | some stop =>
    let name := Text.upper (Bytes.slice line 2 stop)
    if !s.hasPieces && scope.holder == .blockquote && (utf8 "[!").isPrefixOf line &&
        alertNames.contains name then
      some (.leaf (.alertFlag name) [.ofText ⟨c.pos, c.pos + stop + 1, 0⟩], c.advance (stop + 1))
    else none

/-! ### Attribute lists -/

def attributeFields (fields : List Bytes) : List Bytes × List Bytes × List Bytes :=
  let marked (m : UInt8) (f : Bytes) : Bool := f.length > 1 && f.head? == some m
  ((fields.filter (marked (byte '#'))).map (·.drop 1),
    (fields.filter (marked (byte '.'))).map (·.drop 1),
    fields.filter fun f => !marked (byte '#') f && !marked (byte '.') f)

def attributeListNode (text : Bytes) : Node :=
  let (ids, classes, others) := attributeFields (Text.fields text)
  let named (name : String) (values : List Bytes) : List (Bytes × Bytes) :=
    if values.isEmpty then [] else [(utf8 name, Bytes.join (utf8 " ") values)]
  .mk { kind := .attributeList ids classes others,
        attributes := named "class" classes ++ named "id" ids } []

def attributeList? (c : TextCursor) : Option (Node × TextCursor) :=
  let line := c.line
  if !(utf8 "\x7b:").isPrefixOf line then none
  else
    (Bytes.indexOf? (byte '}') line).map fun stop =>
      (attributeListNode (Bytes.slice line 2 stop), c.advance (stop + 1))

/-! ### Shortcodes -/

/-- A line of collected text and where it comes from. -/
structure Collected where
  index : Nat
  /-- The offset of the line in the collected text. -/
  offset : Nat
  start : Nat
  stop : Nat
  text : Bytes
  later : List TextLine

def indentation (l : TextLine) : Bytes :=
  let blanks := l.before.takeWhile fun b => b == byte ' ' || b == byte '\t'
  match l.before.drop blanks.length with
  | [] => blanks.reverse
  | b :: _ => if b == Bytes.newline then blanks.reverse else []

def collectLater (index offset : Nat) : List TextLine → List Collected
  | [] => []
  | l :: ls =>
    let indent := indentation l
    let text := indent ++ l.text
    ⟨index, offset, l.span.start - indent.length, l.span.stop, text, ls⟩ ::
      collectLater (index + 1) (offset + text.length) ls

def collect (c : TextCursor) : List Collected :=
  ⟨c.index, 0, c.pos, c.pos + c.rest.length, c.rest, c.later⟩ ::
    collectLater (c.index + 1) c.rest.length c.later

def positionIn (source : Bytes) (lines : List Collected) (n : Nat) (c : TextCursor) : TextCursor :=
  match lines.reverse.find? (·.offset ≤ n) with
  | none => c
  | some l =>
    let pos := l.start + (n - l.offset)
    ⟨l.index, pos, 0, (source.take pos).reverse, Bytes.slice source pos l.stop, l.later⟩

def shortcode? (scope : InlineScope) (source : ShortcodeSource) (names : MarkdownAttributes)
    (c : TextCursor) : Option (Shortcode × TextCursor) × MarkdownAttributes :=
  if !source.reader.opening.isPrefixOf c.line then (none, names)
  else
    let lines := collect c
    let value := lines.flatMap (·.text)
    let (found, names) :=
      match source.own with
      | some own => ((source.reader.tokenize? own value).1, names)
      | none => source.reader.tokenize? names value
    (found.map fun (n, sc) => (sc, positionIn scope.source lines n c), names)

end MarkdownTidy.Inline
