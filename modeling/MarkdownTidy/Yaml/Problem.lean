import MarkdownTidy.Bytes

/-! What can be wrong with a YAML stream, where, and how it is said. -/

namespace MarkdownTidy.Yaml

/-- A place in a stream. Lines and columns count from zero; the index counts characters. -/
structure Mark where
  index : Nat := 0
  line : Nat := 0
  column : Nat := 0
  deriving DecidableEq, Repr, Inhabited

inductive Fault where
  -- bytes that are not text
  | controlCharacter
  | leadingOctet
  | incompleteSequence
  | trailingOctet
  | sequenceLength
  | notUnicode
  | incompleteUtf16
  | lowSurrogate
  | incompletePair
  | noLowSurrogate
  -- tokens
  | noColon
  | sequenceEntryNotAllowed
  | keyNotAllowed
  | valueNotAllowed
  | noToken
  | anchorName
  | unknownEscape
  | escapeDigits
  | escapeCode
  | documentIndicator
  | endOfStream
  | tabIndentation
  | zeroIndentation
  | blockHeader
  | tabInBlock
  | unknownDirective
  | directiveName
  | directiveCharacter
  | directiveEnd
  | versionSeparator
  | versionTooLong
  | noVersion
  | tagHandle
  | tagUri
  | tagEnd
  | tagBracket
  | tagDirectiveBlank
  | uriEscape
  | uriLeading
  | uriTrailing
  | depth
  -- structure
  | documentStart
  | nodeContent
  | dash
  | key
  | flowSequenceEntry
  | flowMappingEntry
  | undefinedTag
  | duplicateVersion
  | incompatibleVersion
  | duplicateTag
  | unknownAnchor (name : Bytes)
  -- values
  | containsItself (name : Bytes)
  | badBase64
  | mergeValue
  | collectionKey (shown : Bytes)
  | notOfTag (found : Bytes) (value : Bytes) (wanted : Bytes)
  deriving DecidableEq, Repr, Inhabited

def Fault.message : Fault → Bytes
  | controlCharacter => utf8 "control characters are not allowed"
  | leadingOctet => utf8 "invalid leading UTF-8 octet"
  | incompleteSequence => utf8 "incomplete UTF-8 octet sequence"
  | trailingOctet => utf8 "invalid trailing UTF-8 octet"
  | sequenceLength => utf8 "invalid length of a UTF-8 sequence"
  | notUnicode => utf8 "invalid Unicode character"
  | incompleteUtf16 => utf8 "incomplete UTF-16 character"
  | lowSurrogate => utf8 "unexpected low surrogate area"
  | incompletePair => utf8 "incomplete UTF-16 surrogate pair"
  | noLowSurrogate => utf8 "expected low surrogate area"
  | noColon => utf8 "could not find expected ':'"
  | sequenceEntryNotAllowed => utf8 "block sequence entries are not allowed in this context"
  | keyNotAllowed => utf8 "mapping keys are not allowed in this context"
  | valueNotAllowed => utf8 "mapping values are not allowed in this context"
  | noToken => utf8 "found character that cannot start any token"
  | anchorName => utf8 "did not find expected alphabetic or numeric character"
  | unknownEscape => utf8 "found unknown escape character"
  | escapeDigits => utf8 "did not find expected hexdecimal number"
  | escapeCode => utf8 "found invalid Unicode character escape code"
  | documentIndicator => utf8 "found unexpected document indicator"
  | endOfStream => utf8 "found unexpected end of stream"
  | tabIndentation => utf8 "found a tab character that violates indentation"
  | zeroIndentation => utf8 "found an indentation indicator equal to 0"
  | blockHeader => utf8 "did not find expected comment or line break"
  | tabInBlock => utf8 "found a tab character where an indentation space is expected"
  | unknownDirective => utf8 "found unknown directive name"
  | directiveName => utf8 "could not find expected directive name"
  | directiveCharacter => utf8 "found unexpected non-alphabetical character"
  | directiveEnd => utf8 "did not find expected comment or line break"
  | versionSeparator => utf8 "did not find expected digit or '.' character"
  | versionTooLong => utf8 "found extremely long version number"
  | noVersion => utf8 "did not find expected version number"
  | tagHandle => utf8 "did not find expected '!'"
  | tagUri => utf8 "did not find expected tag URI"
  | tagEnd => utf8 "did not find expected whitespace or line break"
  | tagBracket => utf8 "did not find the expected '>'"
  | tagDirectiveBlank => utf8 "did not find expected whitespace"
  | uriEscape => utf8 "did not find URI escaped octet"
  | uriLeading => utf8 "found an incorrect leading UTF-8 octet"
  | uriTrailing => utf8 "found an incorrect trailing UTF-8 octet"
  | depth => utf8 "exceeded max depth of 10000"
  | documentStart => utf8 "did not find expected <document start>"
  | nodeContent => utf8 "did not find expected node content"
  | dash => utf8 "did not find expected '-' indicator"
  | key => utf8 "did not find expected key"
  | flowSequenceEntry => utf8 "did not find expected ',' or ']'"
  | flowMappingEntry => utf8 "did not find expected ',' or '\x7d'"
  | undefinedTag => utf8 "found undefined tag handle"
  | duplicateVersion => utf8 "found duplicate %YAML directive"
  | incompatibleVersion => utf8 "found incompatible YAML document"
  | duplicateTag => utf8 "found duplicate %TAG directive"
  | unknownAnchor name => utf8 "unknown anchor '" ++ name ++ utf8 "' referenced"
  | containsItself name => utf8 "anchor '" ++ name ++ utf8 "' value contains itself"
  | badBase64 => utf8 "!!binary value contains invalid base64 data"
  | mergeValue => utf8 "map merge requires map or sequence of maps as the value"
  | collectionKey shown => utf8 "invalid map key: " ++ shown
  | notOfTag found value wanted =>
    utf8 "cannot decode " ++ found ++ utf8 " \x60" ++ value ++ utf8 "\x60 as a " ++ wanted

/-- Which line a message about a stream names: that of the construct the fault lies in, or that of
the fault. -/
inductive Blame where
  | construct
  | fault
  deriving DecidableEq, Repr

/-- A fault with the lines of the construct it lies in and of the fault itself. Line zero is never
named. Lines of tokens are counted from zero and those of structure from one. -/
structure Problem where
  fault : Fault
  inToken : Bool := false
  construct : Nat := 0
  line : Nat := 0
  deriving DecidableEq, Repr, Inhabited

namespace Problem

def ofToken (fault : Fault) (start found : Mark) : Problem := ⟨fault, true, start.line, found.line⟩

def ofNode (fault : Fault) (start found : Mark) : Problem := ⟨fault, false, start.line, found.line⟩

def ofValue (fault : Fault) : Problem := { fault := fault }

def blamed (p : Problem) : Blame → Nat
  | .construct =>
    let line := if p.construct != 0 then p.construct else p.line
    if line != 0 && p.inToken then line + 1 else line
  | .fault =>
    if p.line != 0 then (if p.inToken then p.line + 1 else p.line) else p.construct

def message (p : Problem) (b : Blame) : Bytes :=
  let place :=
    if p.blamed b == 0 then [] else utf8 "line " ++ decimal (p.blamed b) ++ utf8 ": "
  utf8 "yaml: " ++ place ++ p.fault.message

end Problem

end MarkdownTidy.Yaml
