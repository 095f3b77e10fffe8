import MarkdownTidy.Yaml.Pen

/-! Writing scalars: which styles a text can be written in, and each style. -/

namespace MarkdownTidy.Yaml

/-- The ways a text can be written. -/
structure ScalarShape where
  multiline : Bool := false
  flowPlain : Bool
  blockPlain : Bool
  single : Bool := true
  block : Bool
  deriving DecidableEq, Repr

namespace ScalarShape

def isSpaceOrTab (r : Utf8.CodePoint) : Bool := r.code == 32 || r.code == 9

def isPrintable (code : Nat) : Bool :=
  code == 10 || (0x20 ≤ code && code ≤ 0x7E) || (0xA0 ≤ code && code ≤ 0xD7FF) ||
    (0xE000 ≤ code && code ≤ 0xFFFD && code != 0xFEFF)

/-- What has been found in a text. -/
structure Findings where
  flowMark : Bool := false
  blockMark : Bool := false
  breaks : Bool := false
  special : Bool := false
  tabs : Bool := false
  leading : Bool := false
  trailingSpace : Bool := false
  trailingBreak : Bool := false
  breakSpace : Bool := false
  spaceBreak : Bool := false

/-- Goes through a text; `previous` is the character before, if there is one. -/
def survey : Option Utf8.CodePoint → List Utf8.CodePoint → Findings → Findings
  | _, [], f => f
  | previous, r :: rest, f =>
    let first := previous.isNone
    let spaceFollows := match rest with
      | [] => true
      | n :: _ => isSpaceOrTab n
    let spacePrecedes := match previous with
      | none => true
      | some q => isSpaceOrTab q || Pen.isBreak q.code || q.code == 0
    let is (s : String) : Bool := s.toList.any (·.toNat == r.code)
    let (flowMark, blockMark) :=
      if first then
        if is "#,[]\x7b\x7d&*!|>'\"%@\x60" then (true, true)
        else if is "?:" then (true, spaceFollows)
        else if is "-" then (spaceFollows, spaceFollows)
        else (false, false)
      else if is ",?[]\x7b\x7d" then (true, false)
      else if is ":" then (true, spaceFollows)
      else if is "#" then (spacePrecedes, spacePrecedes)
      else (false, false)
    let isSpace := r.code == 32
    let isBreak := Pen.isBreak r.code
    survey (some r) rest
      { flowMark := f.flowMark || flowMark
        blockMark := f.blockMark || blockMark
        breaks := f.breaks || isBreak
        special := f.special || (r.code != 9 && !isPrintable r.code)
        tabs := f.tabs || r.code == 9
        leading := f.leading || (first && (isSpace || isBreak))
        trailingSpace := f.trailingSpace || (isSpace && rest.isEmpty)
        trailingBreak := f.trailingBreak || (isBreak && rest.isEmpty)
        breakSpace := f.breakSpace || (isSpace && previous.any (Pen.isBreak ·.code))
        spaceBreak := f.spaceBreak || (isBreak && previous.any (·.code == 32)) }

def of (value : Bytes) : ScalarShape :=
  if value.isEmpty then { flowPlain := false, blockPlain := true, block := false }
  else
    let f := survey none (Utf8.codePoints value) {}
    let marked := Bytes.startsWith value (utf8 "---") || Bytes.startsWith value (utf8 "...")
    let plain := !(f.leading || f.trailingSpace || f.trailingBreak || f.breakSpace || f.spaceBreak ||
      f.tabs || f.special || f.breaks)
    { multiline := f.breaks
      flowPlain := plain && !f.flowMark && !marked
      blockPlain := plain && !f.blockMark && !marked
      single := !(f.breakSpace || f.spaceBreak || f.tabs || f.special)
      block := !(f.trailingSpace || f.spaceBreak || f.special) }

def choose (s : ScalarShape) (value : Bytes) (inFlow key : Bool) (wanted : ScalarStyle) : ScalarStyle :=
  let style := if key && s.multiline then .double else wanted
  let style :=
    if style != .plain then style
    else if !(if inFlow then s.flowPlain else s.blockPlain) then .single
    else if value.isEmpty && (inFlow || key) then .single
    else .plain
  let style := if style == .single && !s.single then .double else style
  if (style == .literal || style == .folded) && (!s.block || inFlow || key) then .double else style

end ScalarShape

namespace Pen

/-! ### The styles -/

def plain (value : Bytes) (p : Pen) : Pen :=
  if value.isEmpty then { p with fresh := false }
  else
    let p := if p.spaced then p else p.put [byte ' ']
    { p.put value with spaced := false, fresh := false }

def singleFrom : List Utf8.CodePoint → Bool → Pen → Pen
  | [], _, p => p
  | r :: rest, broken, p =>
    if isBreak r.code then
      let p := if !broken && r.code == 10 then p.lineEnd else p
      singleFrom rest true (p.putBreak r)
    else if r.code == 32 then singleFrom rest broken (p.put r.bytes)
    else
      let p := if broken then p.indented else p
      let p := if r.code == 39 then p.put (utf8 "'") else p
      singleFrom rest false { p.put r.bytes with fresh := false }

def single (value : Bytes) (p : Pen) : Pen :=
  let p := singleFrom (Utf8.codePoints value) false (p.indicator (utf8 "'") true false false)
  { p.indicator (utf8 "'") false false false with spaced := false, fresh := false }

def hexDigits : Nat → Nat → Bytes
  | 0, _ => []
  | k + 1, n => hexDigits k (n / 16) ++ [Bytes.hexDigitUpper (n % 16)]

def escaped (code : Nat) : Bytes :=
  let short : List (Nat × Char) :=
    [(0, '0'), (7, 'a'), (8, 'b'), (9, 't'), (10, 'n'), (11, 'v'), (12, 'f'), (13, 'r'), (27, 'e'),
      (34, '"'), (92, '\\'), (0x85, 'N'), (0xA0, '_'), (0x2028, 'L'), (0x2029, 'P')]
  match short.lookup code with
  | some c => [byte '\\', byte c]
  | none =>
    if code ≤ 0xFF then utf8 "\\x" ++ hexDigits 2 code
    else if code ≤ 0xFFFF then utf8 "\\u" ++ hexDigits 4 code
    else utf8 "\\U" ++ hexDigits 8 code

def double (value : Bytes) (p : Pen) : Pen :=
  let marked := Bytes.startsWith value [0xEF, 0xBB, 0xBF]
  let text := (Utf8.codePoints value).flatMap fun r =>
    if marked || !ScalarShape.isPrintable r.code || isBreak r.code || r.code == 34 || r.code == 92 then
      escaped r.code
    else r.bytes
  let p := (p.indicator (utf8 "\"") true false false).put text
  { p.indicator (utf8 "\"") false false false with spaced := false, fresh := false }

def blockHints (value : Bytes) (p : Pen) : Pen :=
  let points := Utf8.codePoints value
  let ends (r : Option Utf8.CodePoint) : Bool := r.any (isBreak ·.code)
  let p :=
    match points.head? with
    | some r => if r.code == 32 || isBreak r.code then p.indicator (decimal step) false false false else p
    | none => p
  if !ends points.getLast? then p.indicator (utf8 "-") false false false
  else if points.length == 1 || ends points.dropLast.getLast? then p.indicator (utf8 "+") false false false
  else p

def literalFrom : List Utf8.CodePoint → Bool → Pen → Pen
  | [], _, p => p
  | r :: rest, broken, p =>
    if isBreak r.code then literalFrom rest true (p.putBreak r)
    else
      let p := if broken then p.indented else p
      literalFrom rest false { p.put r.bytes with fresh := false }

def literal (value : Bytes) (p : Pen) : Pen :=
  let p := (p.indicator (utf8 "|") true false false).blockHints value |>.lines
  literalFrom (Utf8.codePoints value) true { p with spaced := true }

def foldedFrom (separate : Bool) : List Utf8.CodePoint → Bool → Bool → Pen → Pen
  | [], _, _, p => p
  | r :: rest, broken, blank, p =>
    if isBreak r.code then
      let p := if !broken && !blank && r.code == 10 && separate then p.lineEnd else p
      foldedFrom separate rest true blank (p.putBreak r)
    else
      let blank := if broken then ScalarShape.isSpaceOrTab r else blank
      let p := if broken then p.indented else p
      foldedFrom separate rest false blank { p.put r.bytes with fresh := false }

def folded (value : Bytes) (p : Pen) : Pen :=
  let p := (p.indicator (utf8 ">") true false false).blockHints value |>.lines
  let points := Utf8.codePoints value
  let separate :=
    match points.dropWhile (isBreak ·.code) with
    | [] => false
    | r :: _ => !ScalarShape.isSpaceOrTab r
  foldedFrom separate points true true { p with spaced := true }

def scalar (style : ScalarStyle) (value : Bytes) (p : Pen) : Pen :=
  let outer := p.indent
  let p := p.deeper
  let p := match style with
    | .plain => p.plain value
    | .single => p.single value
    | .double => p.double value
    | .literal => p.literal value
    | .folded => p.folded value
  { p with indent := outer }

end Pen

end MarkdownTidy.Yaml
