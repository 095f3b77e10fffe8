import MarkdownTidy.Document.Node
import MarkdownTidy.Html.Markup

/-! The table of contents of a document: its headings down to the fifth level, each under the heading
before it of a higher level. -/

namespace MarkdownTidy

mutual

def Node.plainText (source : Bytes) : Node → Bytes
  | .mk info children =>
    match info.kind with
    | .text span .. => span.value source
    | .string value => value
    | _ => Node.plainTexts source children

def Node.plainTexts (source : Bytes) : List Node → Bytes
  | [] => []
  | n :: ns => Node.plainText source n ++ Node.plainTexts source ns

end

namespace Preview

/-- An entry of a table of contents; one without a title only holds others. -/
inductive TocItem where
  | mk (title id : Bytes) (items : List TocItem)
  deriving Repr, Inhabited

namespace TocItem

def deepestLevel : Nat := 5

def add (title id : Bytes) : Nat → List TocItem → List TocItem
  | 0, items =>
    match items.getLast? with
    | some (.mk [] _ []) => items.dropLast ++ [.mk title id []]
    | _ => items ++ [.mk title id []]
  | depth + 1, items =>
    match items.getLast? with
    | some (.mk t i below) => items.dropLast ++ [.mk t i (add title id depth below)]
    | none => [.mk [] [] (add title id depth [])]

mutual

def headings (source : Bytes) : Node → List (Nat × Bytes × Bytes)
  | .mk info children =>
    match info.kind with
    | .heading level =>
      let title := Html.unescapePunctuation (Node.plainTexts source children)
      [(level, title, ((info.attributes.find? (·.1 == utf8 "id")).map (·.2)).getD [])]
    | _ => headingsIn source children

def headingsIn (source : Bytes) : List Node → List (Nat × Bytes × Bytes)
  | [] => []
  | n :: ns => headings source n ++ headingsIn source ns

end

mutual

def compact : TocItem → List TocItem
  | .mk title id items =>
    let below := compactAll items
    if title.isEmpty then below else [.mk title id below]

def compactAll : List TocItem → List TocItem
  | [] => []
  | i :: is => compact i ++ compactAll is

end

def ofDocument (source : Bytes) (document : Node) : List TocItem :=
  let found := (headings source document).filter fun (level, _) => level ≤ deepestLevel
  compactAll (found.foldl (fun items (level, title, id) => add title id (level - 1) items) [])

end TocItem

end Preview

end MarkdownTidy
