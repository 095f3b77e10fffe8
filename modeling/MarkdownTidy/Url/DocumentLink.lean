import MarkdownTidy.Text.Case
import MarkdownTidy.Url.Basic

/-! Links between documents. -/

namespace MarkdownTidy

def pathExtension (path : Bytes) : Bytes :=
  let last := (path.reverse.takeWhile (· != byte '/')).reverse
  match Bytes.lastIndexOf? (byte '.') last with
  | some i => last.drop i
  | none => []

/-- Why a destination was left alone. -/
structure LinkError where
  destination : Bytes
  cause : Url.ParseError
  deriving DecidableEq, Repr

def LinkError.message (e : LinkError) : Bytes :=
  utf8 "unknown URL destination " ++ e.destination ++ utf8 ": " ++ e.cause.message

/-- Points a relative link to a markdown document at the page rendered from it. Other destinations
stay as they are. -/
def rewriteDocumentLink (destination : Bytes) : Except LinkError Bytes :=
  match Url.parse destination with
  | .error e => .error ⟨destination, e⟩
  | .ok u =>
    let extension := pathExtension u.path
    if !u.scheme.isEmpty || !u.host.isEmpty || u.path.isEmpty ||
        !Text.equalFold extension (utf8 ".md") then
      .ok destination
    else
      let stem := u.path.take (u.path.length - extension.length)
      .ok { u with path := stem ++ utf8 ".html" }.printRelative

end MarkdownTidy
