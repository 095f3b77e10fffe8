import MarkdownTidy.Html.Tag

/-! Tokenizing HTML: tags, comments and the text between them. Elements whose content is not markup
(such as `script`) and declarations (such as `<!DOCTYPE html>`) are not read. -/

namespace MarkdownTidy.Html

inductive Token where
  | text (value : Bytes)
  | startTag (name : Bytes) (attributes : List (Bytes × Bytes))
  | selfClosingTag (name : Bytes) (attributes : List (Bytes × Bytes))
  | endTag (name : Bytes)
  /-- A comment, without its text. -/
  | comment
  deriving DecidableEq, Repr

def rawTextElements : List Bytes :=
  [utf8 "iframe", utf8 "noembed", utf8 "noframes", utf8 "noscript", utf8 "plaintext", utf8 "script",
    utf8 "style", utf8 "textarea", utf8 "title", utf8 "xmp"]

def opensMarkup (s : Bytes) : Bool :=
  s.head?.any fun b => Bytes.isLetter b || b == byte '/' || b == byte '!' || b == byte '?'

def takeText : Bytes → Bytes × Bytes
  | [] => ([], [])
  | b :: s =>
    if b == byte '<' && opensMarkup s then ([], b :: s)
    else ((b :: (takeText s).1), (takeText s).2)

def endsTagName (b : UInt8) : Bool := isTagSpace b || b == byte '/' || b == byte '>'

/-- A tag as written, without its angle brackets and the slash of an end tag. -/
structure WrittenTag where
  name : Bytes
  attributes : List (Bytes × Bytes)
  /-- Whether a slash stands in front of the closing bracket. -/
  closed : Bool

def takeTag? (s : Bytes) : Option (WrittenTag × Bytes) :=
  let behind := s.dropWhile (!endsTagName ·)
  (tagAttributesUpTo (behind.length + 1) behind).map fun (attributes, after) =>
    (⟨Bytes.lowerAscii (s.takeWhile (!endsTagName ·)), attributes,
      (s.take (s.length - after.length)).dropLast.getLast? == some (byte '/')⟩, after)

def WrittenTag.startToken (t : WrittenTag) : Token :=
  if t.closed then .selfClosingTag t.name t.attributes else .startTag t.name t.attributes

def afterAngle (s : Bytes) : Bytes := (s.dropWhile (· != byte '>')).drop 1

/-- Reads one piece of markup, given what follows its left angle bracket; `none` inside where the
input ends with it, and outside where it is not read. -/
def takeMarkup? (s : Bytes) : Option (Option (Token × Bytes)) :=
  match s with
  | [] => some none
  | b :: rest =>
    if b == byte '!' then none
    else if b == byte '?' then some (some (.comment, afterAngle s))
    else if b == byte '/' then
      match rest with
      | [] => some (some (.text (utf8 "</"), []))
      | c :: after =>
        if c == byte '>' then some (some (.comment, after))
        else if Bytes.isLetter c then
          some ((takeTag? rest).map fun (tag, after) => (.endTag tag.name, after))
        else some (some (.comment, afterAngle rest))
    else
      match takeTag? s with
      | none => some none
      | some (tag, after) =>
        if rawTextElements.contains tag.name then none else some (some (tag.startToken, after))

def tokensUpTo : Nat → Bytes → Option (List Token)
  | 0, _ => none
  | _ + 1, [] => some []
  | fuel + 1, b :: s =>
    if b == byte '<' && opensMarkup s then
      match takeMarkup? s with
      | none => none
      | some none => some []
      | some (some (token, after)) => (tokensUpTo fuel after).map (token :: ·)
    else
      let (value, after) := takeText (b :: s)
      (tokensUpTo fuel after).map (.text (unescape false (convertNewlines value)) :: ·)

def tokens? (s : Bytes) : Option (List Token) := tokensUpTo (s.length + 1) s

end MarkdownTidy.Html
