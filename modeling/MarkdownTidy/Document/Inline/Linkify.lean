import MarkdownTidy.Document.Inline.Leaf

/-! Addresses that become links without brackets. -/

namespace MarkdownTidy.Inline

def isHostByte (b : UInt8) : Bool :=
  Bytes.isAlphanumeric b || (utf8 "-@:%._+~#=").contains b

def isPathByte (dollar : Bool) (b : UInt8) : Bool :=
  Bytes.isAlphanumeric b || (utf8 "-@:%_+.~#!?&/=();,'\">^\x7b\x7d[]`").contains b ||
    (dollar && b == byte '$')

def hostLength? (s : Bytes) : Nat → Option Nat
  | 0 => none
  | k + 1 =>
    match s.drop (k + 1) with
    | b :: rest =>
      let name := (rest.takeWhile Bytes.isLower).length
      if b == byte '.' && name > 0 then some (k + 2 + name) else hostLength? s k
    | [] => hostLength? s k

def locationLength? (port dollar : Bool) (s : Bytes) : Option Nat :=
  let run := min (s.takeWhile isHostByte).length 256
  match hostLength? s run with
  | none => none
  | some n =>
    let digits := ((s.drop (n + 1)).takeWhile Bytes.isDigit).length
    let n :=
      if port && (s.drop n).head? == some (byte ':') && digits > 0 then n + 1 + digits else n
    match s.drop n with
    | b :: rest =>
      if b == byte '/' || b == byte '#' || b == byte '?' then
        some (n + 1 + (rest.takeWhile (isPathByte dollar)).length)
      else some n
    | [] => some n

def webAddress? (s : Bytes) : Option (Nat × Bytes) :=
  let scheme? := ["http://", "https://", "ftp://"].find? fun p => (utf8 p).isPrefixOf s
  let url :=
    match scheme? with
    | some p => (locationLength? true true (s.drop p.length)).map (· + p.length)
    | none => none
  match url with
  | some n => some (n, [])
  | none =>
    if (utf8 "www.").isPrefixOf s then
      (locationLength? false false (s.drop 4)).map fun n => (n + 4, utf8 "http")
    else none

/-- Cuts what closes a sentence rather than an address: a point, parentheses that none opens, an
entity. -/
def cutAddress (s : Bytes) (n : Nat) : Nat :=
  let text := s.take n
  match text.getLast? with
  | none => n
  | some last =>
    if last == byte '.' then n - 1
    else if last == byte ')' then
      let closing := (text.filter (· == byte ')')).length
      let opening := (text.filter (· == byte '(')).length
      n - (closing - opening)
    else if last == byte ';' then
      let name := (text.dropLast.reverse.takeWhile Bytes.isAlphanumeric).length
      if name > 0 && (text.dropLast.reverse.drop name).head? == some (byte '&') then n - name - 2
      else n
    else n

def mailAddress? (s : Bytes) : Option Nat :=
  if s.head?.any Bytes.isPunct then none
  else
    match mailLength? s with
    | none => none
    | some n =>
      let at_ := (Bytes.indexOf? (byte '@') s).getD 0
      if !(Bytes.slice s at_ (n - 1)).contains (byte '.') then none
      else
        let n := if (s.take n).getLast? == some (byte '.') then n - 1 else n
        let next := (s.drop n).headD 0
        if next == byte '-' || next == byte '_' then none else some n

/-- An address at the position, or right after the byte there. -/
def linkify? (s : InlineState) (c : TextCursor) : Option (InlineState × TextCursor) :=
  if !s.open_.isEmpty then none
  else
    let line := c.line
    let skipped := line.head?.any fun b => (utf8 " *_~(").contains b
    let body := if skipped then line.drop 1 else line
    let found : Option (Bool × Bytes × Nat) :=
      match webAddress? body with
      | some (n, scheme) => some (false, scheme, cutAddress body n)
      | none => (mailAddress? body).map fun n => (true, [], n)
    match found with
    | none => none
    | some (email, scheme, n) =>
      let trailing (b : UInt8) : Bool := (utf8 "?!.,:*_~").contains b
      let n := (Bytes.trimRight trailing ((body.take n).drop 1)).length + 1
      let before := if skipped then 1 else 0
      let s := if skipped then s.pushText ⟨c.pos, c.pos + 1, 0⟩ else s
      let label : Span := ⟨c.pos + before, c.pos + before + n, 0⟩
      some (s.pushNode (.leaf (.autoLink email scheme label) []), c.advance (before + n))

end MarkdownTidy.Inline
