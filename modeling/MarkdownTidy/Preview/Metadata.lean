import MarkdownTidy.Yaml.Value

/-! The front matter of a previewed document. It is read twice, as a map from texts and as a list of
pairs, and has to be readable as both. -/

namespace MarkdownTidy.Preview.Metadata

open Yaml Yaml.Decode

def looseMismatch (n : Yaml.Node) (d : Datum) (wanted : String) : Decode Unit :=
  note (.wrongType n.line (if n.traits.tagged then n.tag else d.tag) n.text (utf8 wanted))

/-- A key as a text; `none` for a collection. -/
def key (scope : Scope) (n : Yaml.Node) : Decode (Option Bytes) := do
  let (n, _) ← follow scope n
  match n with
  | .scalar t style v => do
    match ← looseDatum t style v with
    | .null => pure (some [])
    | .str s => pure (some s)
    | _ => pure (some v)
  | _ => do
    mismatch n (utf8 "string")
    pure none

mutual

/-- Entries with texts as keys, on top of those already read. -/
def entries (fuel : Nat) (scope : Scope) (es : List (Yaml.Node × Yaml.Node))
    (read : List (Value × Value)) : Decode (List (Value × Value)) := do
  match fuel, es with
  | fuel + 1, (k, v) :: rest => do
    if k.isMerge then
      let sources ← merged scope v
      let read ← mergedEntries fuel scope sources read
      entries fuel scope rest read
    else
      match ← key scope k with
      | none => entries fuel scope rest read
      | some name => do
        let val ← value false fuel scope v
        entries fuel scope rest (Value.put (.text name) val read)
  | _, _ => pure read

def mergedEntries (fuel : Nat) (scope : Scope) (sources : List Yaml.Node)
    (read : List (Value × Value)) : Decode (List (Value × Value)) := do
  match fuel, sources with
  | fuel + 1, n :: rest => do
    let (n, inner) ← follow scope n
    let read ← match n with
      | .mapping _ _ es => entries fuel inner es read
      | _ => pure read
    mergedEntries fuel scope rest read
  | _, _ => pure read

end

def textMap (fuel : Nat) (scope : Scope) (root : Yaml.Node) : Decode (List (Value × Value)) := do
  let wanted := "map[string]interface \x7b\x7d"
  match root with
  | .mapping _ _ es => entries fuel scope es []
  | .scalar t style v => do
    match ← looseDatum t style v with
    | .null => pure []
    | d => do
      looseMismatch root d wanted
      pure []
  | _ => do
    mismatch root (utf8 wanted)
    pure []

/-- An item of a sequence that stands where pairs are asked for. -/
def pair (fuel : Nat) (scope : Scope) (n : Yaml.Node) : Decode Unit := do
  let wanted := "yaml.MapItem"
  let (n, scope) ← follow scope n
  match n with
  | .mapping _ _ es =>
    es.forM fun (k, v) => do
      match ← key scope k with
      | some name =>
        if name == utf8 "key" || name == utf8 "value" then do
          let _ ← value false fuel scope v
        else pure ()
      | none => pure ()
  | .scalar t style v => do
    match ← looseDatum t style v with
    | .null => pure ()
    | d => looseMismatch n d wanted
  | _ => mismatch n (utf8 wanted)

def pairs (fuel : Nat) (scope : Scope) (root : Yaml.Node) : Decode Unit := do
  match root with
  | .mapping _ _ es => do
    let _ ← valueEntries true fuel scope es []
  | .sequence _ _ items => items.forM (pair fuel scope)
  | .scalar t style v => do
    match ← looseDatum t style v with
    | .null => pure ()
    | d => looseMismatch root d "yaml.MapSlice"
  | .aliasOf .. => pure ()

def failure? {α : Type} (d : Decode α) : Option Bytes :=
  match d [] with
  | .error f => some ((Problem.ofValue f).message .fault)
  | .ok (_, []) => none
  | .ok (_, ms) => some (Mismatch.report ms.reverse)

def fuelFor (block : Bytes) : Nat := 4 * block.length + 64

def problem? (block : Bytes) : Option Bytes :=
  match Yaml.read .bare block with
  | .error p => some (p.message .fault)
  | .ok none => none
  | .ok (some doc) =>
    let scope : Scope := { anchored := doc.anchored }
    (failure? (pairs (fuelFor block) scope doc.root)).or
      (failure? (textMap (fuelFor block) scope doc.root))

def title? (block : Bytes) : Option Bytes :=
  match Yaml.read .bare block with
  | .ok (some doc) =>
    match textMap (fuelFor block) { anchored := doc.anchored } doc.root [] with
    | .ok (es, []) =>
      match es.find? fun (k, _) => Value.sameKey k (.text (utf8 "title")) with
      | none | some (_, .null) => none
      | some (_, v) => some v.shown
    | _ => none
  | _ => none

end MarkdownTidy.Preview.Metadata
