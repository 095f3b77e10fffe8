import MarkdownTidy.Text.Utf8
import MarkdownTidy.Yaml.Problem

/-! The text of a YAML stream. A stream is UTF-8, or UTF-16 if it begins with a byte order mark that
says so, and holds no control characters. -/

namespace MarkdownTidy.Yaml.Source

def isAllowed (c : Nat) : Bool :=
  c == 0x09 || c == 0x0A || c == 0x0D || (0x20 ≤ c && c ≤ 0x7E) || c == 0x85 ||
    (0xA0 ≤ c && c ≤ 0xD7FF) || (0xE000 ≤ c && c ≤ 0xFFFD) || (0x10000 ≤ c && c ≤ 0x10FFFF)

def lead? (b : UInt8) : Option (Nat × Nat) :=
  if b < 0x80 then some (1, b.toNat)
  else if b &&& 0xE0 == 0xC0 then some (2, b.toNat % 32)
  else if b &&& 0xF0 == 0xE0 then some (3, b.toNat % 16)
  else if b &&& 0xF8 == 0xF0 then some (4, b.toNat % 8)
  else none

def isTail (b : UInt8) : Bool := b &&& 0xC0 == 0x80

def least : Nat → Nat
  | 2 => 0x80
  | 3 => 0x800
  | 4 => 0x10000
  | _ => 0

def checkCharacter (a : UInt8) (rest : Bytes) : Except Fault Nat :=
  match lead? a with
  | none => .error .leadingOctet
  | some (width, bits) =>
    let tail := rest.take (width - 1)
    if tail.length < width - 1 then .error .incompleteSequence
    else if !tail.all isTail then .error .trailingOctet
    else
      let value := tail.foldl (fun v b => v * 64 + b.toNat % 64) bits
      if value < least width then .error .sequenceLength
      else if (0xD800 ≤ value && value ≤ 0xDFFF) || value > 0x10FFFF then .error .notUnicode
      else if !isAllowed value then .error .controlCharacter
      else .ok width

def checkFrom : Nat → Bytes → Except Fault Unit
  | _, [] => .ok ()
  | skip + 1, _ :: rest => checkFrom skip rest
  | 0, a :: rest =>
    match checkCharacter a rest with
    | .error f => .error f
    | .ok width => checkFrom (width - 1) rest

def units (unit : UInt8 → UInt8 → Nat) : Bytes → List Nat × Bool
  | [] => ([], false)
  | [_] => ([], true)
  | a :: b :: rest =>
    let (us, odd) := units unit rest
    (unit a b :: us, odd)

/-- The characters that units stand for; `odd` says that a byte follows the last unit. -/
def characters (odd : Bool) : List Nat → Except Fault (List Nat)
  | [] => if odd then .error .incompleteUtf16 else .ok []
  | [u] =>
    if 0xDC00 ≤ u && u ≤ 0xDFFF then .error .lowSurrogate
    else if 0xD800 ≤ u && u ≤ 0xDBFF then .error .incompletePair
    else if !isAllowed u then .error .controlCharacter
    else if odd then .error .incompleteUtf16
    else .ok [u]
  | u :: v :: rest =>
    if 0xDC00 ≤ u && u ≤ 0xDFFF then .error .lowSurrogate
    else if 0xD800 ≤ u && u ≤ 0xDBFF then
      if 0xDC00 ≤ v && v ≤ 0xDFFF then
        (characters odd rest).map ((0x10000 + (u - 0xD800) * 0x400 + (v - 0xDC00)) :: ·)
      else .error .noLowSurrogate
    else if !isAllowed u then .error .controlCharacter
    else (characters odd (v :: rest)).map (u :: ·)

def fromUnits (unit : UInt8 → UInt8 → Nat) (s : Bytes) : Except Fault Bytes :=
  let (us, odd) := units unit s
  (characters odd us).map (·.flatMap Utf8.encode)

def read (stream : Bytes) : Except Fault Bytes :=
  match stream with
  | 0xFF :: 0xFE :: rest => fromUnits (fun a b => a.toNat + 256 * b.toNat) rest
  | 0xFE :: 0xFF :: rest => fromUnits (fun a b => 256 * a.toNat + b.toNat) rest
  | 0xEF :: 0xBB :: 0xBF :: rest => (checkFrom 0 rest).map fun _ => rest
  | s => (checkFrom 0 s).map fun _ => s

end MarkdownTidy.Yaml.Source
