import MarkdownTidy.Html.Tag
import MarkdownTidy.Shortcode.Basic
import MarkdownTidy.Shortcode.MarkdownAttributes
import MarkdownTidy.Text.Blank

/-! Recognizing shortcodes. The attribute list has the grammar of an HTML tag; the spelling of names,
which that grammar lowers, is taken from the text. -/

namespace MarkdownTidy

namespace Shortcode

/-- How shortcodes are recognized: their delimiters, and how markdown-bearing values are tidied. -/
structure Reader where
  opening : Bytes
  closing : Bytes
  tidy : Bytes → Bytes

def defaultOpening : Bytes := utf8 "[["
def defaultClosing : Bytes := utf8 "]]"

def Reader.new (opening closing : Bytes) (tidy : Bytes → Bytes) : Reader where
  opening := if opening.isEmpty then defaultOpening else opening
  closing := if closing.isEmpty then defaultClosing else closing
  tidy := tidy

/-- Skips the value after an attribute name as written; `none` when the scan ends there. -/
def skipWrittenValue? (s : Bytes) : Option Bytes :=
  match s.dropWhile Html.isTagSpace with
  | [] => none
  | b :: rest =>
    if b != byte '=' then some (b :: rest)
    else
      match rest.dropWhile Html.isTagSpace with
      | [] => none
      | q :: rest =>
        if q == byte '>' then some (q :: rest)
        else if q == byte '"' || q == byte '\'' then
          match rest.dropWhile (· != q) with
          | [] => none
          | _ :: after => some after
        else some ((q :: rest).dropWhile (!Html.endsBareValue ·))

def writtenNamesUpTo : Nat → Bytes → List Bytes
  | 0, _ => []
  | fuel + 1, s =>
    match s.dropWhile Html.isTagSpace with
    | [] => []
    | b :: rest =>
      if b == byte '>' then []
      else if b == byte '/' then writtenNamesUpTo fuel rest
      else
        let name := b :: rest.takeWhile (!Html.endsKey ·)
        let after := rest.dropWhile (!Html.endsKey ·)
        name ::
          if after.head? == some (byte '/') then writtenNamesUpTo fuel (after.drop 1)
          else
            match skipWrittenValue? after with
            | none => []
            | some s => writtenNamesUpTo fuel s

def writtenNames (raw : Bytes) : List Bytes := writtenNamesUpTo (raw.length + 1) raw

def respell (parsed : List (Bytes × Bytes)) (written : List Bytes) : List (Bytes × Bytes) :=
  if written.length == parsed.length then
    (parsed.zip written).map fun (a, w) => (if Text.equalFold w a.1 then w else a.1, a.2)
  else parsed

def Reader.keep (r : Reader) (m : MarkdownAttributes) (seen : List Bytes) :
    List (Bytes × Bytes) → Attributes × MarkdownAttributes
  | [] => ([], m)
  | (name, value) :: rest =>
    let key := Text.lower name
    if seen.contains key then r.keep m seen rest
    else
      let (holds, m) := m.observe name
      let value := if holds then Text.trimSpace (r.tidy value) else value
      let (attrs, m) := r.keep m (key :: seen) rest
      (⟨name, value⟩ :: attrs, m)

/-- Reads an attribute list such as `a="b" c='d' e=f g`. Fails when the list does not form a tag. -/
def Reader.attributes? (r : Reader) (m : MarkdownAttributes) (raw : Bytes) :
    Option Attributes × MarkdownAttributes :=
  match Html.tagAttributes? (raw ++ utf8 " />") with
  | none => (none, m)
  | some parsed =>
    let (attrs, m) := r.keep m [] (respell parsed (writtenNames raw))
    (some attrs, m)

def splitName (s : List Utf8.CodePoint) : Bytes × Option Bytes :=
  let name := s.takeWhile (fun r => !Text.isBlank r.code)
  let rest := s.dropWhile (fun r => !Text.isBlank r.code)
  (name.flatMap (·.bytes),
    match rest with
    | [] => none
    | _ :: rest => some (rest.flatMap (·.bytes)))

/-- Reads the text between the delimiters. -/
def Reader.parse? (r : Reader) (m : MarkdownAttributes) (inner : Bytes) :
    Option Shortcode × MarkdownAttributes :=
  let trimmed := Text.trimSpace inner
  if trimmed.isEmpty then (none, m)
  else
    match splitName (Utf8.codePoints trimmed) with
    | (name, none) => (some ⟨name, []⟩, m)
    | (name, some rest) =>
      match r.attributes? m rest with
      | (none, m) => (none, m)
      | (some attrs, m) => (some ⟨name, attrs⟩, m)

/-- Recognizes one shortcode at the start of a text, with the number of bytes it spans. -/
def Reader.tokenize? (r : Reader) (m : MarkdownAttributes) (value : Bytes) :
    Option (Nat × Shortcode) × MarkdownAttributes :=
  if !r.opening.isPrefixOf value then (none, m)
  else
    let body := value.drop r.opening.length
    match Bytes.find? r.closing body with
    | none => (none, m)
    | some n =>
      match r.parse? m (body.take n) with
      | (none, m) => (none, m)
      | (some sc, m) => (some (r.opening.length + n + r.closing.length, sc), m)

/-- What a caller is told about the start of a text: how many bytes a shortcode there spans, the
shortcode, and whether there is one. -/
structure Token where
  consumed : Nat
  shortcode : Option Shortcode
  found : Bool
  deriving DecidableEq, Repr

def Reader.tokenize (r : Reader) (m : MarkdownAttributes) (value : Bytes) (silent : Bool) :
    Token × MarkdownAttributes :=
  match r.tokenize? m value with
  | (none, m) => (⟨0, none, false⟩, m)
  | (some (n, sc), m) => (if silent then ⟨0, none, true⟩ else ⟨n, some sc, true⟩, m)

def Reader.locate? (r : Reader) (value : Bytes) (start : Int) : Option Nat :=
  let start := start.toNat
  if start > value.length then none
  else (Bytes.find? r.opening (value.drop start)).map (start + ·)

def Reader.trigger (r : Reader) : UInt8 := r.opening.headD (byte '[')

end Shortcode

end MarkdownTidy
