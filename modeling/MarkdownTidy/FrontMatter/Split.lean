import MarkdownTidy.FrontMatter.Fence
import MarkdownTidy.Punctuation
import MarkdownTidy.Text.Blank
import MarkdownTidy.Yaml.Printer
import MarkdownTidy.Yaml.Reader

/-! The front matter of a document, apart from its body and in canonical form. -/

namespace MarkdownTidy.FrontMatter

/-- Why a block is no front matter. -/
inductive Unreadable where
  | yaml (p : Yaml.Problem)
  /-- The block holds something else than a mapping. -/
  | notMapping (tag : Bytes)
  deriving DecidableEq, Repr

def Unreadable.message : Unreadable → Bytes
  | yaml p => utf8 "front matter: " ++ p.message .construct
  | notMapping tag => utf8 "front matter: expected a mapping, found " ++ tag

/-- What stands at the front of a document. -/
inductive Split where
  /-- There is no fenced block. -/
  | absent
  | unreadable (problem : Unreadable)
  /-- The block holds nothing. -/
  | empty (body : Bytes)
  | present (root : Yaml.Node) (body : Bytes)

def split (src : Bytes) : Split :=
  match block? src with
  | none => .absent
  | some ⟨none, body⟩ => .empty body
  | some ⟨some content, body⟩ =>
    if (Text.trimSpace content).isEmpty then .empty body
    else
      match Yaml.read .commented content with
      | .error p => .unreadable (.yaml p)
      | .ok none => .empty body
      | .ok (some doc) =>
        match doc.root with
        | .mapping _ _ [] => .empty body
        | .mapping .. => .present doc.root body
        | n => .unreadable (.notMapping n.tag)

mutual

def tidyNode (n : Yaml.Node) : Yaml.Node :=
  match n with
  | .scalar t s v => .scalar t s (if t.tag == Yaml.Tag.str then Punctuation.clean v else v)
  | .sequence t _ items => .sequence { t with tagged := false } true (tidyItems items)
  | .mapping t _ entries => .mapping { t with tagged := false } true (tidyEntries entries)
  | .aliasOf t name i => .aliasOf t name i

def tidyItems (items : List Yaml.Node) : List Yaml.Node :=
  match items with
  | [] => []
  | n :: rest => tidyNode n :: tidyItems rest

def tidyEntries (entries : List (Yaml.Node × Yaml.Node)) : List (Yaml.Node × Yaml.Node) :=
  match entries with
  | [] => []
  | (k, v) :: rest => (tidyNode k, tidyNode v) :: tidyEntries rest

end

def render (root : Yaml.Node) : Bytes := Yaml.print (tidyNode root)

end MarkdownTidy.FrontMatter
