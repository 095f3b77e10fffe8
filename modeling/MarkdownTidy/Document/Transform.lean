import MarkdownTidy.Document.Node
import MarkdownTidy.Text.Case
import MarkdownTidy.Url.DocumentLink

/-! Changes to a parsed document before it is rendered as HTML: attribute lists go onto the node in
front of them, alert flags become classes, images of media files become players, and links to
documents point at their pages. -/

namespace MarkdownTidy

namespace Transform

/-! ### Attribute lists -/

def listedAttributes (ids classes : List Bytes) : List (Bytes × Bytes) :=
  (if classes.isEmpty then [] else [(utf8 "class", Bytes.join (utf8 " ") classes)]) ++
    if ids.isEmpty then [] else [(utf8 "id", Bytes.join (utf8 " ") ids)]

def setAll (n : Node) (attrs : List (Bytes × Bytes)) : Node :=
  attrs.foldl (fun n a => n.setAttribute a.1 a.2) n

def moveLists (before : List Node) : List Node → List Node
  | [] => before.reverse
  | n :: ns =>
    match n.kind with
    | .attributeList ids classes _ =>
      match before with
      | [] => moveLists [] ns
      | b :: bs => moveLists (setAll b (listedAttributes ids classes) :: bs) ns
    | _ => moveLists (n :: before) ns

mutual

def applyAttributeLists : Node → Node
  | .mk info children => .mk info (moveLists [] (applyInAll children))

def applyInAll : List Node → List Node
  | [] => []
  | n :: ns => applyAttributeLists n :: applyInAll ns

end

/-! ### Alerts -/

def alertClass (flag : Bytes) : Bytes := utf8 "alert alert-" ++ Text.lower flag

/-- Takes the flag off the front of a block quote. -/
def flagged (quote : Node) : Node :=
  match quote.children with
  | p :: rest =>
    match p.kind, p.children with
    | .paragraph, f :: inlines =>
      match f.kind with
      | .alertFlag name =>
        let cls :=
          match quote.attribute? (utf8 "class") with
          | some c => c ++ utf8 " " ++ alertClass name
          | none => alertClass name
        (quote.setAttribute (utf8 "class") cls).withChildren (p.withChildren inlines :: rest)
      | _ => quote
    | _, _ => quote
  | [] => quote

mutual

def applyAlerts : Node → Node
  | .mk info children =>
    let n := Node.mk info (applyAlertsIn children)
    match info.kind with
    | .blockquote => flagged n
    | _ => n

def applyAlertsIn : List Node → List Node
  | [] => []
  | n :: ns => applyAlerts n :: applyAlertsIn ns

end

/-! ### Media -/

def videoExtensions : List Bytes := ["webm", "mp4", "mkv", "ogv"].map utf8
def audioExtensions : List Bytes := ["mp3", "ogg", "wav", "flac"].map utf8

def medium? (destination : Bytes) : Option (Bytes × Medium) :=
  let extension := Text.lower ((pathExtension destination).drop 1)
  if videoExtensions.contains extension then some (extension, .video)
  else if audioExtensions.contains extension then some (extension, .audio)
  else none

def player? (k : Kind) : Option Node :=
  match k with
  | .image d _ => (medium? d).map fun (extension, m) => .leaf (.media d extension m) []
  | _ => none

mutual

/-- Replaces images of media files. One that is alone in a paragraph takes the paragraph's place. -/
def embedMedia : Node → Node
  | .mk info children =>
    match player? info.kind with
    | some p => p
    | none =>
      match info.kind, children.map (fun c => player? c.kind) with
      | .paragraph, [some p] => p
      | _, _ => .mk info (embedMediaIn children)

def embedMediaIn : List Node → List Node
  | [] => []
  | n :: ns => embedMedia n :: embedMediaIn ns

end

/-! ### Front matter -/

mutual

def showProblems : Node → Node
  | .mk info children =>
    let children := showProblemsIn children
    match info.kind with
    | .badFrontMatter problem =>
      .mk info (children ++ [.leaf (.string (utf8 "<!-- " ++ problem ++ utf8 " -->")) []])
    | _ => .mk info children

def showProblemsIn : List Node → List Node
  | [] => []
  | n :: ns => showProblems n :: showProblemsIn ns

end

/-! ### Links between documents -/

def badLink (destination : Bytes) (e : LinkError) : Bytes :=
  utf8 "Error transforming URL '" ++ destination ++ utf8 "' : " ++ e.message

mutual

def rewriteLinks : Node → Node × List Bytes
  | .mk info children =>
    let (kind, log) :=
      match info.kind with
      | .link d title =>
        match rewriteDocumentLink d with
        | .ok d' => (Kind.link d' title, [])
        | .error e => (info.kind, [badLink d e])
      | k => (k, [])
    let (children, logs) := rewriteLinksIn children
    (.mk { info with kind := kind } children, log ++ logs)

def rewriteLinksIn : List Node → List Node × List Bytes
  | [] => ([], [])
  | n :: ns =>
    let (n, log) := rewriteLinks n
    let (ns, logs) := rewriteLinksIn ns
    (n :: ns, log ++ logs)

end

end Transform

end MarkdownTidy
