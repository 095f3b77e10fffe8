import MarkdownTidy.Url.Escape

/-! Parts of a URL. A path and a fragment are kept resolved, and as written where that is not what
escaping them again would give. -/

namespace MarkdownTidy

structure UrlUser where
  name : Bytes
  password : Option Bytes
  deriving DecidableEq, Repr

structure Url where
  scheme : Bytes := []
  /-- What follows a scheme and does not begin with a slash. -/
  rootless : Bytes := []
  user : Option UrlUser := none
  host : Bytes := []
  path : Bytes := []
  writtenPath : Bytes := []
  /-- Whether a question mark stands in front of an empty query. -/
  emptyQuery : Bool := false
  query : Bytes := []
  fragment : Bytes := []
  writtenFragment : Bytes := []
  deriving DecidableEq, Repr

namespace Url

def cut (sep : UInt8) (s : Bytes) : Bytes × Option Bytes :=
  match s.dropWhile (· != sep) with
  | [] => (s, none)
  | _ :: after => (s.takeWhile (· != sep), some after)

def isSchemeByte (c : UInt8) : Bool :=
  Bytes.isAlphanumeric c || c == byte '+' || c == byte '-' || c == byte '.'

def splitScheme (s : Bytes) : Except UrlError (Bytes × Bytes) :=
  match cut (byte ':') s with
  | (_, none) => .ok ([], s)
  | ([], some _) => .error .missingScheme
  | (c :: scheme, some rest) =>
    if Bytes.isLetter c && scheme.all isSchemeByte then .ok (c :: scheme, rest) else .ok ([], s)

def isPort (s : Bytes) : Bool :=
  match s with
  | [] => true
  | c :: digits => c == byte ':' && digits.all Bytes.isDigit

/-- Reads a host with an optional port. -/
def readHost (s : Bytes) : Except UrlError Bytes :=
  if s.head? == some (byte '[') then
    match Bytes.lastIndexOf? (byte ']') s with
    | none => .error .openBracket
    | some i =>
      if !isPort (s.drop (i + 1)) then .error (.badPort (s.drop (i + 1)))
      else
        match Bytes.find? (utf8 "%25") (s.take i) with
        | none => UrlPart.host.unescape? s
        | some z => do
          let a ← UrlPart.host.unescape? (s.take z)
          let b ← UrlPart.zone.unescape? ((s.take i).drop z)
          let c ← UrlPart.host.unescape? (s.drop i)
          return a ++ b ++ c
  else
    match Bytes.lastIndexOf? (byte ':') s with
    | some i => if !isPort (s.drop i) then .error (.badPort (s.drop i)) else UrlPart.host.unescape? s
    | none => UrlPart.host.unescape? s

def isUserByte (c : UInt8) : Bool :=
  Bytes.isAlphanumeric c || (utf8 "-._:~!$&'()*+,;=%@").contains c

def readUser (s : Bytes) : Except UrlError UrlUser :=
  if !s.all isUserByte then .error .badUser
  else
    match cut (byte ':') s with
    | (_, none) => do return ⟨← UrlPart.user.unescape? s, none⟩
    | (name, some password) => do
      let name ← UrlPart.user.unescape? name
      return ⟨name, some (← UrlPart.user.unescape? password)⟩

def readAuthority (s : Bytes) : Except UrlError (Option UrlUser × Bytes) :=
  match Bytes.lastIndexOf? (byte '@') s with
  | none => do return (none, ← readHost s)
  | some i => do
    let host ← readHost (s.drop (i + 1))
    return (some (← readUser (s.take i)), host)

def readPart (part : UrlPart) (s : Bytes) : Except UrlError (Bytes × Bytes) := do
  let resolved ← part.unescape? s
  return (resolved, if part.escape resolved == s then [] else s)

/-- Reads a URL that has no fragment. -/
def parseBeforeFragment (s : Bytes) : Except UrlError Url :=
  if s.any fun c => c < 0x20 || c == 0x7F then .error .controlCharacter
  else if s == utf8 "*" then .ok { path := s }
  else do
    let (scheme, rest) ← splitScheme s
    let scheme := Bytes.lowerAscii scheme
    let emptyQuery := rest.getLast? == some (byte '?') && rest.count (byte '?') == 1
    let (rest, query) := cut (byte '?') rest
    let u : Url := { scheme := scheme, emptyQuery := emptyQuery, query := query.getD [] }
    if rest.head? != some (byte '/') && !scheme.isEmpty then return { u with rootless := rest }
    else if rest.head? != some (byte '/') && (cut (byte '/') rest).1.contains (byte ':') then
      throw .colonInSegment
    else
      let hasAuthority := Bytes.startsWith rest (utf8 "//") &&
        (!scheme.isEmpty || !Bytes.startsWith rest (utf8 "///"))
      let (authority, rest) :=
        if hasAuthority then
          ((rest.drop 2).takeWhile (· != byte '/'), (rest.drop 2).dropWhile (· != byte '/'))
        else ([], rest)
      let (user, host) ← if hasAuthority then readAuthority authority else .ok (none, [])
      let (path, writtenPath) ← readPart .path rest
      return { u with user := user, host := host, path := path, writtenPath := writtenPath }

/-- Why a text is not a URL, and which text. -/
structure ParseError where
  text : Bytes
  cause : UrlError
  deriving DecidableEq, Repr

def ParseError.message (e : ParseError) : Bytes :=
  utf8 "parse " ++ Text.quote e.text ++ utf8 ": " ++ e.cause.message

def parse (s : Bytes) : Except ParseError Url :=
  let (front, fragment) := cut (byte '#') s
  match parseBeforeFragment front with
  | .error e => .error ⟨front, e⟩
  | .ok u =>
    match readPart .fragment (fragment.getD []) with
    | .error e => .error ⟨s, e⟩
    | .ok (fragment, written) => .ok { u with fragment := fragment, writtenFragment := written }

def printPart (part : UrlPart) (resolved written : Bytes) : Bytes :=
  let kept := !written.isEmpty && part.isEscaped written &&
    (match part.unescape? written with
      | .ok s => s == resolved
      | .error _ => false)
  if kept then written else part.escape resolved

def printPath (u : Url) : Bytes :=
  if u.path == utf8 "*" then u.path else printPart .path u.path u.writtenPath

def printUser (u : UrlUser) : Bytes :=
  UrlPart.user.escape u.name ++
    ((u.password.map fun p => utf8 ":" ++ UrlPart.user.escape p).getD [])

def printRelative (u : Url) : Bytes :=
  let front := (u.user.map fun x => utf8 "//" ++ printUser x ++ utf8 "@").getD []
  let path := u.printPath
  let dot :=
    if front.isEmpty && (cut (byte '/') path).1.contains (byte ':') then utf8 "./" else []
  let query := if u.emptyQuery || !u.query.isEmpty then byte '?' :: u.query else []
  let fragment :=
    if u.fragment.isEmpty then []
    else byte '#' :: printPart .fragment u.fragment u.writtenFragment
  front ++ dot ++ path ++ query ++ fragment

end Url

end MarkdownTidy
