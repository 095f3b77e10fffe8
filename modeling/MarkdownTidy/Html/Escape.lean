import MarkdownTidy.Text.Entity

/-! Escaping text for HTML and resolving character references in attribute values and text. -/

namespace MarkdownTidy.Html

def escapeByte (b : UInt8) : Bytes :=
  if b == byte '&' then utf8 "&amp;"
  else if b == byte '\'' then utf8 "&#39;"
  else if b == byte '<' then utf8 "&lt;"
  else if b == byte '>' then utf8 "&gt;"
  else if b == byte '"' then utf8 "&#34;"
  else if b == byte '\r' then utf8 "&#13;"
  else [b]

def escape (s : Bytes) : Bytes := s.flatMap escapeByte

def windowsCodes : List Nat :=
  [0x20AC, 0x81, 0x201A, 0x0192, 0x201E, 0x2026, 0x2020, 0x2021, 0x02C6, 0x2030, 0x0160, 0x2039,
    0x0152, 0x8D, 0x017D, 0x8F, 0x90, 0x2018, 0x2019, 0x201C, 0x201D, 0x2022, 0x2013, 0x2014,
    0x02DC, 0x2122, 0x0161, 0x203A, 0x0153, 0x9D, 0x017E, 0x0178]

def numericCode (x : UInt32) : Nat :=
  let n := x.toNat
  if 0x80 ≤ n && n ≤ 0x9F then windowsCodes.getD (n - 0x80) n
  else if n == 0 || (0xD800 ≤ n && n ≤ 0xDFFF) || n > 0x10FFFF then Utf8.replacement
  else n

def numericDigits (hex : Bool) (x : UInt32) (count : Nat) : Bytes → UInt32 × Nat
  | [] => (x, count)
  | b :: rest =>
    if hex && Bytes.isHexDigit b then
      numericDigits hex (16 * x + (Bytes.hexValue b).toUInt32) (count + 1) rest
    else if !hex && Bytes.isDigit b then
      numericDigits hex (10 * x + (b.toUInt32 - 48)) (count + 1) rest
    else (x, count)

def codes? (name : Bytes) : Option (List Nat) :=
  if name == utf8 "nLt" || name == utf8 "nGt" then none else Entity.codes? name

def longestBare? (name : Bytes) : Nat → Option (Nat × List Nat)
  | 0 | 1 => none
  | n + 2 =>
    match Entity.bareCodes? (name.take (n + 2)) with
    | some codes => some (n + 2, codes)
    | none => longestBare? name (n + 1)

/-- Resolves one reference: what to write and how many bytes, the ampersand included, it takes. The
text is what follows the ampersand. -/
def resolve (inValue : Bool) (s : Bytes) : Bytes × Nat :=
  let literal (n : Nat) : Bytes × Nat := (byte '&' :: s.take n, n + 1)
  match s with
  | [] => literal 0
  | b :: rest =>
    if b == byte '#' then
      if s.length ≤ 2 then literal 0
      else
        let hex := rest.head?.any fun c => c == byte 'x' || c == byte 'X'
        let digits := if hex then rest.drop 1 else rest
        let (x, count) := numericDigits hex 0 0 digits
        let closed := (digits.drop count).head? == some (byte ';')
        let size := 2 + (if hex then 1 else 0) + count + (if closed then 1 else 0)
        if size ≤ 3 then literal 0 else (Utf8.encode (numericCode x), size)
    else
      let name := s.takeWhile Bytes.isAlphanumeric
      let after := (s.drop name.length).head?
      let closed := after == some (byte ';')
      let size := name.length + (if closed then 1 else 0)
      if size == 0 then literal 0
      else if inValue && !closed && after == some (byte '=') then literal size
      else
        match if closed then codes? name else Entity.bareCodes? name with
        | some codes => (codes.flatMap Utf8.encode, size + 1)
        | none =>
          if inValue then literal size
          else
            match longestBare? name (min (size - 1) Entity.longestBareName) with
            | some (n, codes) => (codes.flatMap Utf8.encode, n + 1)
            | none => literal size

def unescapeUpTo (inValue : Bool) : Nat → Bytes → Bytes
  | 0, s => s
  | _ + 1, [] => []
  | fuel + 1, b :: s =>
    if b == byte '&' then
      let (out, size) := resolve inValue s
      out ++ unescapeUpTo inValue fuel (s.drop (size - 1))
    else b :: unescapeUpTo inValue fuel s

def unescape (inValue : Bool) (s : Bytes) : Bytes := unescapeUpTo inValue s.length s

/-- Writes every line end as a line feed. -/
def convertNewlines : Bytes → Bytes
  | [] => []
  | b :: rest =>
    if b == byte '\r' then
      if rest.head? == some Bytes.newline then convertNewlines rest
      else Bytes.newline :: convertNewlines rest
    else b :: convertNewlines rest

end MarkdownTidy.Html
