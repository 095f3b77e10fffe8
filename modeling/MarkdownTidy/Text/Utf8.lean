import MarkdownTidy.Bytes

/-! Reading and writing code points. A byte that starts no well-formed sequence is read as the
replacement character and one byte long, so reading never fails and never skips a byte. -/

namespace MarkdownTidy.Utf8

def replacement : Nat := 0xFFFD

def between (lo hi b : UInt8) : Bool := lo ≤ b && b ≤ hi

def tail (b : UInt8) : Bool := between 0x80 0xBF b

def isStart (b : UInt8) : Bool := !tail b

def low (b : UInt8) : Nat := b.toNat % 64

/-- The code point at the front of a text and the number of bytes it takes; size zero only for the
empty text. -/
def decode : Bytes → Nat × Nat
  | [] => (replacement, 0)
  | a :: rest =>
    if a < 0x80 then (a.toNat, 1)
    else if between 0xC2 0xDF a then
      match rest with
      | b :: _ => if tail b then ((a.toNat % 32) * 64 + low b, 2) else (replacement, 1)
      | _ => (replacement, 1)
    else if between 0xE0 0xEF a then
      match rest with
      | b :: c :: _ =>
        let lo : UInt8 := if a == 0xE0 then 0xA0 else 0x80
        let hi : UInt8 := if a == 0xED then 0x9F else 0xBF
        if between lo hi b && tail c then ((a.toNat % 16) * 4096 + low b * 64 + low c, 3)
        else (replacement, 1)
      | _ => (replacement, 1)
    else if between 0xF0 0xF4 a then
      match rest with
      | b :: c :: d :: _ =>
        let lo : UInt8 := if a == 0xF0 then 0x90 else 0x80
        let hi : UInt8 := if a == 0xF4 then 0x8F else 0xBF
        if between lo hi b && tail c && tail d then
          ((a.toNat % 8) * 262144 + low b * 4096 + low c * 64 + low d, 4)
        else (replacement, 1)
      | _ => (replacement, 1)
    else (replacement, 1)

/-- The UTF-8 form of a code point; surrogates and numbers past the last code point are written as
the replacement character. -/
def encode (n : Nat) : Bytes :=
  if n < 0x80 then [n.toUInt8]
  else if n < 0x800 then [(0xC0 + n / 64).toUInt8, (0x80 + n % 64).toUInt8]
  else if (0xD800 ≤ n && n ≤ 0xDFFF) || n > 0x10FFFF then [0xEF, 0xBF, 0xBD]
  else if n < 0x10000 then
    [(0xE0 + n / 4096).toUInt8, (0x80 + n / 64 % 64).toUInt8, (0x80 + n % 64).toUInt8]
  else
    [(0xF0 + n / 262144).toUInt8, (0x80 + n / 4096 % 64).toUInt8, (0x80 + n / 64 % 64).toUInt8,
      (0x80 + n % 64).toUInt8]

/-- A code point together with the bytes it was read from. -/
structure CodePoint where
  code : Nat
  bytes : Bytes
  deriving DecidableEq, Repr

def CodePoint.isInvalid (r : CodePoint) : Bool := r.code == replacement && r.bytes.length == 1

def codePointsUpTo : Nat → Bytes → List CodePoint
  | 0, _ => []
  | _ + 1, [] => []
  | fuel + 1, c :: s =>
    let (code, size) := decode (c :: s)
    ⟨code, (c :: s).take size⟩ :: codePointsUpTo fuel ((c :: s).drop size)

def codePoints (s : Bytes) : List CodePoint := codePointsUpTo s.length s

def precedingOfReversed (seen : Bytes) : Nat :=
  let cont := seen.takeWhile (fun b => !isStart b)
  match seen.drop cont.length with
  | [] => replacement
  | b :: _ => (decode (b :: cont.reverse)).1

/-- The last code point of a text: a sequence that does not reach the end exactly is ill-formed. -/
def last (s : Bytes) : Nat :=
  let seen := (s.drop (s.length - 4)).reverse
  let cont := seen.takeWhile (fun b => !isStart b)
  match seen.drop cont.length with
  | [] => replacement
  | b :: _ =>
    let (code, size) := decode (b :: cont.reverse)
    if size == cont.length + 1 then code else replacement

def sequenceLength (b : UInt8) : Nat :=
  if b < 0x80 then 1
  else if 0xC2 ≤ b && b ≤ 0xDF then 2
  else if 0xE0 ≤ b && b ≤ 0xEF then 3
  else if 0xF0 ≤ b && b ≤ 0xF4 then 4
  else 99

end MarkdownTidy.Utf8

namespace MarkdownTidy

abbrev RangeTable := List (Nat × Nat)

def RangeTable.contains (t : RangeTable) (n : Nat) : Bool := t.any fun r => r.1 ≤ n && n ≤ r.2

end MarkdownTidy
