import MarkdownTidy.Document.Node

/-! Footnotes move to the end of the document, in the order of the first references to them, and those
nothing refers to are dropped. -/

namespace MarkdownTidy.Footnotes

mutual

def fillNode (footnotes : List Node) : Node → Node
  | .mk info children =>
    match info.kind with
    | .footnoteList => .mk info footnotes
    | _ => .mk info (fillNodes footnotes children)

def fillNodes (footnotes : List Node) : List Node → List Node
  | [] => []
  | n :: ns => fillNode footnotes n :: fillNodes footnotes ns

end

mutual

def withoutLists : Node → Node
  | .mk info children => .mk info (listsRemoved children)

def listsRemoved : List Node → List Node
  | [] => []
  | n :: ns =>
    match n.kind with
    | .footnoteList => listsRemoved ns
    | _ => withoutLists n :: listsRemoved ns

end

mutual

def listIn? : Node → Option (List Node)
  | .mk info children =>
    match info.kind with
    | .footnoteList => some children
    | _ => listAmong? children

def listAmong? : List Node → Option (List Node)
  | [] => none
  | n :: ns =>
    match listIn? n with
    | some l => some l
    | none => listAmong? ns

end

mutual

def countNode (links : List Nat) : Node → Node
  | .mk info children =>
    let kind :=
      match info.kind with
      | .footnoteLink index _ position => .footnoteLink index (links.count index) position
      | k => k
    .mk { info with kind := kind } (countNodes links children)

def countNodes (links : List Nat) : List Node → List Node
  | [] => []
  | n :: ns => countNode links n :: countNodes links ns

end

def backlinks (index references : Nat) : List Node :=
  (List.range (max references 1)).map fun i => .leaf (.footnoteBacklink index references i) []

def finish (links : List Nat) (index : Nat) (n : Node) : Node :=
  let label :=
    match n.kind with
    | .footnote label _ => label
    | _ => []
  let back := backlinks index (links.count index)
  let children :=
    match n.children.getLast? with
    | some last =>
      match last.kind with
      | .paragraph => n.children.dropLast ++ [last.withChildren (last.children ++ back)]
      | _ => n.children ++ back
    | none => back
  .mk { n.info with kind := .footnote label index } children

def insert (p : Nat × Node) : List (Nat × Node) → List (Nat × Node)
  | [] => [p]
  | q :: qs => if p.1 < q.1 then p :: q :: qs else q :: insert p qs

/-- Moves the footnotes of a document to its end. `indices` are the numbers that references gave them,
zero for none, and `links` the numbers that links refer to. -/
def place (footnotes : List Node) (indices links : List Nat) (doc : Node) : Node :=
  if footnotes.isEmpty then doc
  else
    let body := countNode links (withoutLists doc)
    let found := (listIn? doc).getD footnotes
    let kept := (indices.zip found).filter (·.1 != 0)
    let sorted := kept.foldl (fun acc p => insert p acc) []
    if sorted.isEmpty then body
    else
      let notes := sorted.map fun (i, n) => finish links i (countNode links (withoutLists n))
      body.withChildren (body.children ++ [.leaf .footnoteList notes])

end MarkdownTidy.Footnotes
