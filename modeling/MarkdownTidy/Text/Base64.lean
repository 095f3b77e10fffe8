import MarkdownTidy.Bytes

/-! Bytes written with 64 characters, four for every three bytes, the last four filled up with `=`. -/

namespace MarkdownTidy.Base64

def value? (c : UInt8) : Option Nat :=
  if Bytes.isUpper c then some (c.toNat - 65)
  else if Bytes.isLower c then some (c.toNat - 71)
  else if Bytes.isDigit c then some (c.toNat + 4)
  else if c == byte '+' then some 62
  else if c == byte '/' then some 63
  else none

/-- Decodes whole groups. -/
def decodeGroups? : Bytes → Option Bytes
  | [] => some []
  | [a, b, 61, 61] => do
    let a ← value? a
    let b ← value? b
    some [(a * 4 + b / 16).toUInt8]
  | [a, b, c, 61] => do
    let a ← value? a
    let b ← value? b
    let c ← value? c
    some [(a * 4 + b / 16).toUInt8, (b % 16 * 16 + c / 4).toUInt8]
  | a :: b :: c :: d :: rest => do
    let a ← value? a
    let b ← value? b
    let c ← value? c
    let d ← value? d
    let tail ← decodeGroups? rest
    some ((a * 4 + b / 16).toUInt8 :: (b % 16 * 16 + c / 4).toUInt8 :: (c % 4 * 64 + d).toUInt8 :: tail)
  | _ => none

def decode? (s : Bytes) : Option Bytes := decodeGroups? (s.filter fun c => c != 10 && c != 13)

end MarkdownTidy.Base64
