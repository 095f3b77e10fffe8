import MarkdownTidy.Text.Entity
import MarkdownTidy.Url.Escape

/-! Markdown text as HTML text: backslash escapes and character references are resolved, and what HTML
would take for markup is escaped. -/

namespace MarkdownTidy.Html

def markupByte (b : UInt8) : Bytes :=
  if b == byte '"' then utf8 "&quot;"
  else if b == byte '&' then utf8 "&amp;"
  else if b == byte '<' then utf8 "&lt;"
  else if b == byte '>' then utf8 "&gt;"
  else [b]

def markup (s : Bytes) : Bytes := s.flatMap markupByte

def withoutZero (s : Bytes) : Bytes :=
  s.flatMap fun b => if b == 0 then Utf8.encode Utf8.replacement else [b]

def digitsValue (s : Bytes) : Nat :=
  match s with
  | 48 :: c :: rest =>
    if (c :: rest).all (· ≤ byte '7') then (c :: rest).foldl (fun n d => n * 8 + (d.toNat - 48)) 0
    else 0
  | _ => Bytes.toNat s

def hexDigitsValue (s : Bytes) : Nat := s.foldl (fun n d => n * 16 + Bytes.hexValue d) 0

def validCode (n : Nat) : Nat :=
  if n == 0 || n > 0x10FFFF || (0xD800 ≤ n && n ≤ 0xDFFF) then Utf8.replacement else n

def numericReference? (longestHex : Option Nat) (s : Bytes) : Option (Nat × Nat) :=
  match s with
  | [] => none
  | c :: rest =>
    if c == byte 'x' || c == byte 'X' then
      let digits := rest.takeWhile Bytes.isHexDigit
      let fits := (longestHex.map fun n => decide (digits.length ≤ n)).getD true
      if digits.isEmpty || !fits || (rest.drop digits.length).head? != some (byte ';') then none
      else some (validCode (hexDigitsValue digits), digits.length + 2)
    else
      let digits := s.takeWhile Bytes.isDigit
      if digits.isEmpty || digits.length > 7 || (s.drop digits.length).head? != some (byte ';') then
        none
      else some (validCode (digitsValue digits), digits.length + 1)

def namedReference? (s : Bytes) : Option (Bytes × Nat) :=
  let name := s.takeWhile Bytes.isAlphanumeric
  if (s.drop name.length).head? != some (byte ';') then none
  else (Entity.codes? name).map fun codes => (codes.flatMap Utf8.encode, name.length + 1)

def reference? (s : Bytes) : Option (Bytes × Nat) :=
  match s with
  | [] => none
  | c :: rest =>
    if c == byte '#' then
      (numericReference? (some 6) rest).map fun (code, n) => (markup (Utf8.encode code), n + 1)
    else (namedReference? s).map fun (t, n) => (markup t, n)

def textUpTo : Nat → Bytes → Bytes
  | 0, _ => []
  | _ + 1, [] => []
  | fuel + 1, b :: s =>
    if b == byte '\\' then
      match s with
      | c :: rest =>
        if Bytes.isPunct c then markupByte c ++ textUpTo fuel rest else b :: textUpTo fuel s
      | [] => [b]
    else if b == 0 then Utf8.encode Utf8.replacement ++ textUpTo fuel s
    else if b == byte '&' then
      match reference? s with
      | some (t, n) => t ++ textUpTo fuel (s.drop n)
      | none => utf8 "&amp;" ++ textUpTo fuel s
    else markupByte b ++ textUpTo fuel s

def text (s : Bytes) : Bytes := textUpTo s.length s

/-! ### Destinations -/

def unescapePunctuation : Bytes → Bytes
  | [] => []
  | [b] => [b]
  | b :: c :: rest =>
    if b == byte '\\' && Bytes.isPunct c then c :: unescapePunctuation rest
    else b :: unescapePunctuation (c :: rest)

def replaceReferences (find? : Bytes → Option (Bytes × Nat)) : Nat → Bytes → Bytes
  | 0, s => s
  | _ + 1, [] => []
  | fuel + 1, b :: s =>
    if b == byte '&' then
      match find? s with
      | some (t, n) => t ++ replaceReferences find? fuel (s.drop n)
      | none => b :: replaceReferences find? fuel s
    else b :: replaceReferences find? fuel s

def resolveNumeric (s : Bytes) : Bytes :=
  let find? (s : Bytes) : Option (Bytes × Nat) :=
    match s with
    | 35 :: rest => (numericReference? none rest).map fun (code, n) => (Utf8.encode code, n + 1)
    | _ => none
  replaceReferences find? s.length s

def resolveNamed (s : Bytes) : Bytes :=
  let find? (s : Bytes) : Option (Bytes × Nat) :=
    if s.head? == some (byte '#') then none else namedReference? s
  replaceReferences find? s.length s

def isUrlByte (b : UInt8) : Bool :=
  Bytes.isAlphanumeric b || (utf8 "!#$&'()*+,-./:;=?@_~").contains b

def escapeUrlUpTo (total : Nat) : Nat → Bytes → Bytes
  | 0, _ => []
  | _ + 1, [] => []
  | fuel + 1, b :: s =>
    let next := escapeUrlUpTo total fuel
    let escaped := b == byte '%' && s.length ≥ 2 && (s.head?.map Bytes.isHexDigit).getD false
    if isUrlByte b then b :: next s
    else if escaped then b :: s.take 2 ++ next (s.drop 2)
    else if Utf8.sequenceLength b == 99 then b :: next s
    else if b == byte ' ' then utf8 "%20" ++ next s
    else
      let n := if Utf8.sequenceLength b > total then total - 1 else Utf8.sequenceLength b
      if n == 0 then [b]
      else if s.length + 1 < n then next s
      else UrlPart.query.escape ((b :: s).take n) ++ next (s.drop (n - 1))

def escapeUrl (s : Bytes) : Bytes := escapeUrlUpTo s.length s.length s

def destination (s : Bytes) : Bytes :=
  markup (escapeUrl (resolveNamed (resolveNumeric (unescapePunctuation s))))

def isDangerousUrl (s : Bytes) : Bool :=
  let begins (t : String) (s : Bytes) : Bool := Bytes.startsWith (Bytes.lowerAscii s) (utf8 t)
  if begins "data:image/" s then
    !(["png;", "gif;", "jpeg;", "webp;", "svg+xml;"].any fun t => begins t (s.drop 11))
  else ["javascript:", "vbscript:", "file:", "data:"].any fun t => begins t s

end MarkdownTidy.Html
