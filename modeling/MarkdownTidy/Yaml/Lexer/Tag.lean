import MarkdownTidy.Yaml.Cursor
import MarkdownTidy.Yaml.Token

/-! Anchors, aliases, tags and directives. -/

namespace MarkdownTidy.Yaml.Lexer

def anchorName (c : Cursor) : Except Problem (Bytes × Cursor) :=
  let start := c.mark
  let (name, c) := c.skip.takeWhile isWord
  if name.isEmpty || !(atGap c.rest || (utf8 "?:,]\x7d%@\x60").contains c.current) then
    .error (.ofToken .anchorName start c.mark)
  else .ok (name, c)

/-- The bytes of one character written with `%` and two digits a byte; `left` is how many bytes are
still to come, `none` ahead of the first. -/
def takeUriEscape (start : Mark) : Nat → Option Nat → Cursor → Except Problem (Bytes × Cursor)
  | _, some 0, c | 0, _, c => .ok ([], c)
  | fuel + 1, left, c =>
    match c.rest with
    | 37 :: a :: b :: _ =>
      if !(Bytes.isHexDigit a && Bytes.isHexDigit b) then .error (.ofToken .uriEscape start c.mark)
      else
        let octet := (Bytes.hexValue a * 16 + Bytes.hexValue b).toUInt8
        let next (n : Nat) : Except Problem (Bytes × Cursor) := do
          let (s, c) ← takeUriEscape start fuel (some n) (Cursor.skipMany 3 c)
          pure (octet :: s, c)
        match left with
        | none =>
          if octet < 0x80 then next 0
          else if octet &&& 0xE0 == 0xC0 then next 1
          else if octet &&& 0xF0 == 0xE0 then next 2
          else if octet &&& 0xF8 == 0xF0 then next 3
          else .error (.ofToken .uriLeading start c.mark)
        | some n =>
          if octet &&& 0xC0 != 0x80 then .error (.ofToken .uriTrailing start c.mark)
          else next (n - 1)
    | _ => .error (.ofToken .uriEscape start c.mark)

def isUri (b : UInt8) : Bool := isWord b || (utf8 ";/?:@&=+$,.!~*'()[]%").contains b

def takeUriRun (start : Mark) : Nat → Cursor → Except Problem (Bytes × Cursor)
  | 0, c => .ok ([], c)
  | fuel + 1, c =>
    if c.atEnd || !isUri c.current then .ok ([], c)
    else do
      let (s, c) ← if c.current == byte '%' then takeUriEscape start 5 none c else .ok c.take
      let (t, c) ← takeUriRun start fuel c
      pure (s ++ t, c)

def takeUri (start : Mark) (head : Bytes) (c : Cursor) : Except Problem (Bytes × Cursor) := do
  let (s, c') ← takeUriRun start c.rest.length c
  if head.isEmpty && c'.mark.index == c.mark.index then throw (.ofToken .tagUri start c'.mark)
  pure (head.drop 1 ++ s, c')

def takeHandle (directive : Bool) (start : Mark) (c : Cursor) : Except Problem (Bytes × Cursor) :=
  if c.current != byte '!' then .error (.ofToken .tagHandle start c.mark)
  else
    let (word, c) := c.skip.takeWhile isWord
    if c.current == byte '!' then .ok ([byte '!'] ++ word ++ [byte '!'], c.skip)
    else if directive && !word.isEmpty then .error (.ofToken .tagHandle start c.mark)
    else .ok (byte '!' :: word, c)

/-- The handle and suffix of the tag here. -/
def tag (c : Cursor) : Except Problem (Bytes × Bytes × Cursor) := do
  let start := c.mark
  let (handle, suffix, c) ←
    if c.following == byte '<' then do
      let (suffix, c) ← takeUri start [] (Cursor.skipMany 2 c)
      if c.current != byte '>' then throw (.ofToken .tagBracket start c.mark)
      pure ([], suffix, c.skip)
    else do
      let (handle, c) ← takeHandle false start c
      if handle.length > 1 && handle.getLast? == some (byte '!') then
        let (suffix, c) ← takeUri start [] c
        pure (handle, suffix, c)
      else
        let (suffix, c) ← takeUri start handle c
        pure (if suffix.isEmpty then ([], handle, c) else ([byte '!'], suffix, c))
  if !atGap c.rest then throw (.ofToken .tagEnd start c.mark)
  pure (handle, suffix, c)

/-! ### Directives -/

def versionNumber (start : Mark) (c : Cursor) : Except Problem (Nat × Cursor) :=
  let digits := c.rest.takeWhile Bytes.isDigit
  if digits.length > 2 then .error (.ofToken .versionTooLong start (Cursor.skipMany 2 c).mark)
  else if digits.isEmpty then .error (.ofToken .noVersion start c.mark)
  else .ok (Bytes.toNat digits, Cursor.skipMany digits.length c)

/-- The directive here, with its line. -/
def directive (c : Cursor) : Except Problem (Token × Cursor) := do
  let start := c.mark
  let (name, c) := c.skip.takeWhile isWord
  if name.isEmpty then throw (.ofToken .directiveName start c.mark)
  if !atGap c.rest then throw (.ofToken .directiveCharacter start c.mark)
  let (kind, c) ←
    if name == utf8 "YAML" then do
      let (major, c) ← versionNumber start c.skipBlanks
      if c.current != byte '.' then throw (.ofToken .versionSeparator start c.mark)
      let (minor, c) ← versionNumber start c.skip
      pure (TokenKind.version major minor, c)
    else if name == utf8 "TAG" then do
      let (handle, c) ← takeHandle true start c.skipBlanks
      if !atBlank c.rest then throw (.ofToken .tagDirectiveBlank start c.mark)
      let (stem, c) ← takeUri start [] c.skipBlanks
      if !atGap c.rest then throw (.ofToken .tagEnd start c.mark)
      pure (TokenKind.tagDirective handle stem, c)
    else throw (.ofToken .unknownDirective start c.mark)
  let stop := c.mark
  let c := c.skipBlanks
  let c := if c.current == byte '#' then c.takeLine.2 else c
  if !atLineEnd c.rest then throw (.ofToken .directiveEnd start c.mark)
  pure (⟨kind, start, stop⟩, c.skipBreak)

end MarkdownTidy.Yaml.Lexer
