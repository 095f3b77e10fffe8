import MarkdownTidy.Yaml.Decode

/-! Documents as values of no fixed type, with the wider set of words for truth values. A timestamp
is left as text. -/

namespace MarkdownTidy.Yaml

inductive Value where
  | null
  | bool (b : Bool)
  | int (n : Int)
  | float (x : Double)
  | infinity (negative : Bool)
  | notANumber
  | text (s : Bytes)
  | list (items : List Value)
  | map (entries : List (Value × Value))
  deriving Repr, Inhabited

namespace Value

def scalar? : Value → Option Datum
  | null => some .null
  | bool b => some (.bool b)
  | int n => some (.int n)
  | float x => some (.float x)
  | infinity n => some (.infinity n)
  | notANumber => some .notANumber
  | text s => some (.str s)
  | _ => none

def sameKey (a b : Value) : Bool :=
  match a.scalar?, b.scalar? with
  | some x, some y => x == y
  | _, _ => false

def put (key value : Value) : List (Value × Value) → List (Value × Value)
  | [] => [(key, value)]
  | (k, v) :: rest => if sameKey k key then (k, value) :: rest else (k, v) :: put key value rest

def keyLe (a b : Value) : Bool :=
  match a, b with
  | .int m, .int n => m ≤ n
  | .text s, .text t => Bytes.le s t
  | .bool p, .bool q => !p || q
  | _, _ => true

mutual

def shown : Value → Bytes
  | null => utf8 "<nil>"
  | bool b => utf8 (if b then "true" else "false")
  | int n => decimalInt n
  | float x => x.text
  | infinity negative => utf8 (if negative then "-Inf" else "+Inf")
  | notANumber => utf8 "NaN"
  | text s => s
  | list items => utf8 "[" ++ Bytes.join (utf8 " ") (shownItems items) ++ utf8 "]"
  | map entries =>
    let sorted := (shownEntries entries).mergeSort fun a b => keyLe a.1 b.1
    utf8 "map[" ++ Bytes.join (utf8 " ") (sorted.map (·.2)) ++ utf8 "]"

def shownItems : List Value → List Bytes
  | [] => []
  | v :: rest => shown v :: shownItems rest

def shownEntries : List (Value × Value) → List (Value × Bytes)
  | [] => []
  | (k, v) :: rest => (k, shown k ++ utf8 ":" ++ shown v) :: shownEntries rest

end

mutual

def described : Value → Bytes
  | null => utf8 "interface \x7b\x7d(nil)"
  | text s => Text.quote s
  | list items =>
    utf8 "[]interface \x7b\x7d\x7b" ++ Bytes.join (utf8 ", ") (describedItems items) ++ utf8 "\x7d"
  | map entries =>
    utf8 "map[interface \x7b\x7d]interface \x7b\x7d\x7b" ++
      Bytes.join (utf8 ", ") (describedEntries entries) ++ utf8 "\x7d"
  | v => shown v

def describedItems : List Value → List Bytes
  | [] => []
  | v :: rest => described v :: describedItems rest

def describedEntries : List (Value × Value) → List Bytes
  | [] => []
  | (k, v) :: rest => (described k ++ utf8 ":" ++ described v) :: describedEntries rest

end

end Value

namespace Decode

def looseDatum (t : Traits) (style : ScalarStyle) (value : Bytes) : Decode Datum := do
  if t.tagged then
    if t.tag == Tag.binary then datum t.tag value
    else
      match Resolve.tagged .many t.tag value with
      | .ok d => pure d
      | .error f => throw f
  else if style != .plain then pure (.str value)
  else pure (Resolve.plain .many true value)

def ofDatum (written : Bytes) : Datum → Value
  | .null => .null
  | .bool b => .bool b
  | .int n => .int n
  | .float x => .float x
  | .infinity n => .infinity n
  | .notANumber => .notANumber
  | .timestamp => .text written
  | .str s => .text s

mutual

/-- A node as a value, with fuel for its parts. Collections may be keys only where `anyKey` says
so. -/
def value (anyKey : Bool) (fuel : Nat) (scope : Scope) (n : Node) : Decode Value := do
  match fuel with
  | 0 => pure .null
  | fuel + 1 =>
    let (n, scope) ← follow scope n
    match n with
    | .scalar t style v => do
      let d ← looseDatum t style v
      pure (ofDatum v d)
    | .sequence _ _ items => do
      let vs ← values anyKey fuel scope items
      pure (.list vs)
    | .mapping _ _ es => do
      let es ← valueEntries anyKey fuel scope es []
      pure (.map es)
    | .aliasOf .. => pure .null

def values (anyKey : Bool) (fuel : Nat) (scope : Scope) (items : List Node) : Decode (List Value) := do
  match fuel, items with
  | fuel + 1, n :: rest => do
    let v ← value anyKey fuel scope n
    let vs ← values anyKey fuel scope rest
    pure (v :: vs)
  | _, _ => pure []

def valueEntries (anyKey : Bool) (fuel : Nat) (scope : Scope) (es : List (Node × Node))
    (read : List (Value × Value)) : Decode (List (Value × Value)) := do
  match fuel, es with
  | fuel + 1, (k, v) :: rest => do
    if k.isMerge then
      let sources ← merged scope v
      let read ← mergedEntries anyKey fuel scope sources read
      valueEntries anyKey fuel scope rest read
    else
      let key ← value anyKey fuel scope k
      if !anyKey && key.scalar?.isNone then throw (.collectionKey key.described)
      let val ← value anyKey fuel scope v
      valueEntries anyKey fuel scope rest (Value.put key val read)
  | _, _ => pure read

def mergedEntries (anyKey : Bool) (fuel : Nat) (scope : Scope) (sources : List Node)
    (read : List (Value × Value)) : Decode (List (Value × Value)) := do
  match fuel, sources with
  | fuel + 1, n :: rest => do
    let (n, inner) ← follow scope n
    let read ← match n with
      | .mapping _ _ es => valueEntries anyKey fuel inner es read
      | _ => pure read
    mergedEntries anyKey fuel scope rest read
  | _, _ => pure read

end

end Decode

end MarkdownTidy.Yaml
