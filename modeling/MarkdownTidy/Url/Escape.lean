import MarkdownTidy.Text.Quoted

/-! Percent escapes in the parts of a URL. -/

namespace MarkdownTidy

/-- The parts of a URL that have their own rules for what is escaped. -/
inductive UrlPart where
  | path | user | host | zone | fragment | query
  deriving DecidableEq, Repr

/-- Why a text is not a URL. -/
inductive UrlError where
  | controlCharacter
  | missingScheme
  | colonInSegment
  | badEscape (s : Bytes)
  | badHostByte (b : UInt8)
  | badPort (s : Bytes)
  | openBracket
  | badUser
  deriving DecidableEq, Repr

def UrlError.message : UrlError → Bytes
  | controlCharacter => utf8 "net/url: invalid control character in URL"
  | missingScheme => utf8 "missing protocol scheme"
  | colonInSegment => utf8 "first path segment in URL cannot contain colon"
  | badEscape s => utf8 "invalid URL escape " ++ Text.quote s
  | badHostByte b => utf8 "invalid character " ++ Text.quote [b] ++ utf8 " in host name"
  | badPort s => utf8 "invalid port " ++ Text.quote s ++ utf8 " after host"
  | openBracket => utf8 "missing ']' in host"
  | badUser => utf8 "net/url: invalid userinfo"

namespace UrlPart

def inHost : UrlPart → Bool
  | host | zone => true
  | _ => false

def escapes (part : UrlPart) (c : UInt8) : Bool :=
  if Bytes.isAlphanumeric c then false
  else if part.inHost && (utf8 "!$&'()*+,;=:[]<>\"").contains c then false
  else if (utf8 "-_.~").contains c then false
  else if (utf8 "$&+,/:;=?@").contains c then
    match part with
    | path => c == byte '?'
    | user => (utf8 "@/?:").contains c
    | query => true
    | fragment => false
    | host | zone => true
  else !(part == fragment && (utf8 "!()*").contains c)

def escapeByte (c : UInt8) : Bytes :=
  [byte '%', Bytes.hexDigitUpper (c.toNat / 16), Bytes.hexDigitUpper (c.toNat % 16)]

def escape (part : UrlPart) (s : Bytes) : Bytes :=
  s.flatMap fun c =>
    if c == byte ' ' && part == query then utf8 "+"
    else if part.escapes c then escapeByte c
    else [c]

def allowsEscape (part : UrlPart) (a b : UInt8) : Bool :=
  let percent := a == byte '2' && b == byte '5'
  let value := (Bytes.hexValue a * 16 + Bytes.hexValue b).toUInt8
  match part with
  | host => Bytes.hexValue a ≥ 8 || percent
  | zone => percent || value == byte ' ' || !host.escapes value
  | _ => true

/-- Resolves percent escapes. -/
def unescape? (part : UrlPart) : Bytes → Except UrlError Bytes
  | [] => .ok []
  | c :: rest =>
    if c == byte '%' then
      match rest with
      | a :: b :: after =>
        if !(Bytes.isHexDigit a && Bytes.isHexDigit b) || !part.allowsEscape a b then
          .error (.badEscape [c, a, b])
        else
          (unescape? part after).map
            ((Bytes.hexValue a * 16 + Bytes.hexValue b).toUInt8 :: ·)
      | _ => .error (.badEscape (c :: rest))
    else if part.inHost && c < 0x80 && part.escapes c then .error (.badHostByte c)
    else (unescape? part rest).map (c :: ·)

def isEscaped (part : UrlPart) (s : Bytes) : Bool :=
  s.all fun c => (utf8 "!$&'()*+,;=:@[]%").contains c || !part.escapes c

end UrlPart

end MarkdownTidy
