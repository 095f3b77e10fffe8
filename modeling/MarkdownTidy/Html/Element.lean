import MarkdownTidy.Html.Escape
import MarkdownTidy.Text.Blank

/-! Pages as a small tree of elements, written with indentation. -/

namespace MarkdownTidy.Html

inductive Element where
  /-- No element at all. -/
  | missing
  | text (content : Bytes)
  /-- Markup that is already rendered. -/
  | raw (content : Bytes)
  | tagged (tag : Bytes) (attributes : List (Bytes × Bytes)) (children : List Element)
  deriving Repr, Inhabited

namespace Element

def addAttribute (name value : Bytes) : List (Bytes × Bytes) → List (Bytes × Bytes)
  | [] => [(name, value)]
  | (n, v) :: rest =>
    if name == n then (n, v ++ utf8 " " ++ value) :: rest
    else if Bytes.le name n then (name, value) :: (n, v) :: rest
    else (n, v) :: addAttribute name value rest

def new (tag : Bytes) (attributes : List (Bytes × Bytes)) (children : List Element) : Element :=
  .tagged tag (attributes.foldl (fun acc a => addAttribute a.1 a.2 acc) []) children

def voidTags : List Bytes :=
  ["area", "base", "br", "col", "embed", "hr", "img", "input", "link", "meta", "param", "source",
    "track", "wbr"].map utf8

/-- Why a tree cannot be written: the only child of an element is missing. -/
inductive RenderError where
  | missingChild
  deriving DecidableEq, Repr

def longestShort : Nat := 31

def shortContent : List Element → Except RenderError (Option Bytes)
  | [] => .ok (some [])
  | [.missing] => .error .missingChild
  | [.text content] =>
    if content.contains Bytes.newline || (escape content).length > longestShort then .ok none
    else .ok (some (escape (Text.trimSpace content)))
  | [.tagged [] _ _] => .ok (some [])
  | _ => .ok none

def indentation (depth : Int) : Bytes := Bytes.spaces (4 * depth.toNat)

def openingTag (tag : Bytes) (attributes : List (Bytes × Bytes)) : Bytes :=
  utf8 "<" ++ tag ++
    (attributes.flatMap fun (name, value) =>
      utf8 " " ++ name ++
        (if value.isEmpty then [] else utf8 "=\"" ++ escape value ++ utf8 "\"")) ++
    utf8 ">"

def textLines (depth : Int) (content : Bytes) : Bytes :=
  (Bytes.split Bytes.newline content).flatMap fun line =>
    indentation depth ++ escape (Text.trimSpace line) ++ utf8 "\n"

mutual

/-- An element on its own lines, indented by its depth. -/
def render (depth : Int) : Element → Except RenderError Bytes
  | .missing => .ok []
  | .raw content =>
    .ok (if Bytes.endsWith content (utf8 "\n") then content else content ++ utf8 "\n")
  | .text content => .ok (textLines depth content)
  | .tagged tag attributes children =>
    if tag.isEmpty then .ok (textLines depth [])
    else
      let opening := indentation depth ++ openingTag tag attributes
      if voidTags.contains tag then .ok (opening ++ utf8 "\n")
      else
        let closing := utf8 "</" ++ tag ++ utf8 ">\n"
        match shortContent children with
        | .error e => .error e
        | .ok (some content) => .ok (opening ++ content ++ closing)
        | .ok none =>
          match renderAll (depth + 1) children with
          | .error e => .error e
          | .ok inner => .ok (opening ++ utf8 "\n" ++ inner ++ indentation depth ++ closing)

def renderAll (depth : Int) : List Element → Except RenderError Bytes
  | [] => .ok []
  | e :: es =>
    match render depth e with
    | .error x => .error x
    | .ok s =>
      match renderAll depth es with
      | .error x => .error x
      | .ok rest => .ok (s ++ rest)

end

end Element

end MarkdownTidy.Html
