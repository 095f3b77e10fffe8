import MarkdownTidy.Text.Base64
import MarkdownTidy.Text.Quoted
import MarkdownTidy.Yaml.Reader

/-! Reading values of known types out of a document. What does not fit is noted and reading goes on;
a fault stops it. -/

namespace MarkdownTidy.Yaml

/-- Something in a document that does not fit the type asked for. -/
inductive Mismatch where
  | wrongType (line : Nat) (tag value : Bytes) (wanted : Bytes)
  | unknownField (line : Nat) (name type : Bytes)
  | fieldTwice (line : Nat) (name type : Bytes)
  | keyTwice (line : Nat) (key : Bytes) (first : Nat)
  deriving DecidableEq, Repr

def Mismatch.shown (tag value : Bytes) : Bytes :=
  if tag == Tag.seq || tag == Tag.map then []
  else if value.length > 10 then utf8 " \x60" ++ value.take 7 ++ utf8 "...\x60"
  else utf8 " \x60" ++ value ++ utf8 "\x60"

def Mismatch.message : Mismatch → Bytes
  | wrongType line tag value wanted =>
    utf8 "line " ++ decimal line ++ utf8 ": cannot unmarshal " ++ tag ++ shown tag value ++
      utf8 " into " ++ wanted
  | unknownField line name type =>
    utf8 "line " ++ decimal line ++ utf8 ": field " ++ name ++ utf8 " not found in type " ++ type
  | fieldTwice line name type =>
    utf8 "line " ++ decimal line ++ utf8 ": field " ++ name ++ utf8 " already set in type " ++ type
  | keyTwice line key first =>
    utf8 "line " ++ decimal line ++ utf8 ": mapping key " ++ Text.quote key ++
      utf8 " already defined at line " ++ decimal first

def Mismatch.report (ms : List Mismatch) : Bytes :=
  utf8 "yaml: unmarshal errors:" ++ ms.flatMap fun m => utf8 "\n  " ++ m.message

abbrev Decode := StateT (List Mismatch) (Except Fault)

/-- The nodes aliases refer to, and those being read. -/
structure Scope where
  anchored : Array (Option Node)
  active : List Nat := []

namespace Decode

def note (m : Mismatch) : Decode Unit := modify (m :: ·)

def mismatch (n : Node) (wanted : Bytes) : Decode Unit := note (.wrongType n.line n.tag n.text wanted)

def follow (scope : Scope) : Node → Decode (Node × Scope)
  | .aliasOf _ name i =>
    if scope.active.contains i then throw (.containsItself name)
    else
      match scope.anchored[i]? with
      | some (some n) => pure (n, { scope with active := i :: scope.active })
      | _ => throw (.unknownAnchor name)
  | n => pure (n, scope)

def datum (tag value : Bytes) : Decode Datum :=
  if tag == Tag.binary then
    match Base64.decode? value with
    | some s => pure (.str s)
    | none => throw .badBase64
  else
    match Resolve.tagged .few tag value with
    | .ok d => pure d
    | .error f => throw f

def sameKind : Node → Node → Bool
  | .scalar .., .scalar .. | .sequence .., .sequence .. | .mapping .., .mapping ..
  | .aliasOf .., .aliasOf .. => true
  | _, _ => false

def keysTwice : List (Node × Node) → List Mismatch
  | [] => []
  | (k, _) :: rest =>
    (rest.filterMap fun (l, _) =>
      if sameKind k l && k.text == l.text then some (.keyTwice l.line l.text k.line) else none) ++
        keysTwice rest

def keysDiffer (entries : List (Node × Node)) : Decode Bool := do
  let twice := keysTwice entries
  modify (twice.reverse ++ ·)
  pure twice.isEmpty

def notCollection (n : Node) (wanted : Bytes) : Decode Unit := do
  match n with
  | .mapping _ _ entries => if ← keysDiffer entries then mismatch n wanted
  | _ => mismatch n wanted

/-- A truth value, also by the words `yes` and `no` and their like; `none` if there is none. -/
def bool (scope : Scope) (n : Node) : Decode (Option Bool) := do
  let (n, _) ← follow scope n
  match n with
  | .scalar t _ value => do
    let word (s : Bytes) : Decode (Option Bool) :=
      match (if Resolve.isWordOf ["true", "false"] s then none else Resolve.truth? .many s) with
      | some b => pure (some b)
      | none => do
        mismatch n (utf8 "bool")
        pure none
    match ← datum t.tag value with
    | .null => pure none
    | .bool b => pure (some b)
    | .str s => word s
    | _ => do
      mismatch n (utf8 "bool")
      pure none
  | _ => do
    notCollection n (utf8 "bool")
    pure none

/-- A text, as it is written; `none` if there is none. -/
def text (scope : Scope) (n : Node) : Decode (Option Bytes) := do
  let (n, _) ← follow scope n
  match n with
  | .scalar t _ value => do
    match ← datum t.tag value with
    | .null => pure none
    | .str s => pure (some s)
    | _ => pure (some value)
  | _ => do
    notCollection n (utf8 "string")
    pure none

/-- A list of texts; items that are none are left out. -/
def texts (scope : Scope) (n : Node) : Decode (Option (List Bytes)) := do
  let (n, scope) ← follow scope n
  match n with
  | .scalar t _ value => do
    match ← datum t.tag value with
    | .null => pure (some [])
    | _ => do
      mismatch n (utf8 "[]string")
      pure none
  | .sequence _ _ items => do
    let read ← items.mapM (text scope)
    pure (some (read.filterMap id))
  | _ => do
    notCollection n (utf8 "[]string")
    pure none

/-! ### Records -/

/-- A field of a record: its key, and how its value changes the record. -/
structure RecordField (α : Type) where
  name : Bytes
  read : Scope → Node → α → Decode α

def RecordField.of {α β : Type} (name : String) (read : Scope → Node → Decode (Option β))
    (put : α → β → α) : RecordField α :=
  ⟨utf8 name, fun scope n a => do
    match ← read scope n with
    | some b => pure (put a b)
    | none => pure a⟩

def merged (scope : Scope) (n : Node) : Decode (List Node) := do
  let isMap (n : Node) : Bool :=
    match n with
    | .aliasOf _ _ i => (scope.anchored[i]?.join).any Node.isMapping
    | n => n.isMapping
  match n with
  | .sequence _ _ items => if items.all isMap then pure items else throw .mergeValue
  | n => if isMap n then pure [n] else throw .mergeValue

def textKeys (scope : Scope) : List (Node × Node) → Decode (List Bytes)
  | [] => pure []
  | (k, _) :: rest => do
    let (k, _) ← follow scope k
    let keys ← textKeys scope rest
    match k with
    | .scalar t _ value => do
      match ← datum t.tag value with
      | .str s => pure (s :: keys)
      | _ => pure keys
    | _ => pure keys

/-- Reads the entries of a mapping into a record. `taken` are the fields that may not be set any
more, if entries are merged in; those set become part of it. `done` are the fields set here. -/
def entries {α : Type} (type : Bytes) (fields : List (RecordField α)) (scope : Scope) :
    List (Node × Node) → Option (List Bytes) → List Bytes → α → Decode (α × Option (List Bytes))
  | [], taken, _, a => pure (a, taken)
  | (k, v) :: rest, taken, done, a => do
    if k.isMerge then entries type fields scope rest taken done a
    else
      match ← text scope k with
      | none => entries type fields scope rest taken done a
      | some name =>
        if taken.any (·.contains name) then entries type fields scope rest taken done a
        else
          let taken := taken.map (name :: ·)
          match fields.find? (·.name == name) with
          | none => do
            note (.unknownField k.line name type)
            entries type fields scope rest taken done a
          | some f =>
            if done.contains name then do
              note (.fieldTwice k.line name type)
              entries type fields scope rest taken done a
            else do
              let a ← f.read scope v a
              entries type fields scope rest taken (name :: done) a

/-- Reads a node into a record, with fuel for the mappings merged in. Merging sets only fields that
are not set yet. -/
def record {α : Type} (type : Bytes) (fields : List (RecordField α)) :
    Nat → Scope → Option (List Bytes) → Node → α → Decode (α × Option (List Bytes))
  | 0, _, taken, _, a => pure (a, taken)
  | fuel + 1, scope, taken, n, a => do
    let (n, scope) ← follow scope n
    match n with
    | .scalar t _ value => do
      match ← datum t.tag value with
      | .null => pure (a, taken)
      | _ => do
        mismatch n type
        pure (a, taken)
    | .mapping _ _ es => do
      if !(← keysDiffer es) then pure (a, taken)
      else
        let (a, taken) ← entries type fields scope es taken [] a
        match (es.filter (·.1.isMerge)).getLast? with
        | none => pure (a, taken)
        | some (_, source) => do
          let now ← match taken with
            | some names => pure names
            | none => textKeys scope es
          let sources ← merged scope source
          let (a, now) ← sources.foldlM (fun (a, now) m => record type fields fuel scope now m a)
            (a, some now)
          pure (a, if taken.isNone then none else now)
    | _ => do
      mismatch n type
      pure (a, taken)

end Decode

end MarkdownTidy.Yaml
