import MarkdownTidy.Bytes

/-! Dates and times: `2001-12-14`, `2001-12-14 21:59:43.10` and `2001-12-14T21:59:43.10-05:00`. -/

namespace MarkdownTidy.Yaml.Timestamp

def isLeap (year : Nat) : Bool := year % 4 == 0 && (year % 100 != 0 || year % 400 == 0)

def daysIn (year month : Nat) : Nat :=
  if month == 2 then (if isLeap year then 29 else 28)
  else if month == 4 || month == 6 || month == 9 || month == 11 then 30
  else 31

def number? : Bytes → Option (Nat × Bytes)
  | a :: b :: s =>
    if !Bytes.isDigit a then none
    else if Bytes.isDigit b then some (Bytes.toNat [a, b], s)
    else some (Bytes.toNat [a], b :: s)
  | [a] => if Bytes.isDigit a then some (Bytes.toNat [a], []) else none
  | [] => none

def numberIn? (lo hi : Nat) (s : Bytes) : Option (Nat × Bytes) :=
  (number? s).filter fun (n, _) => lo ≤ n && n ≤ hi

def after? (c : Char) : Bytes → Option Bytes
  | b :: s => if b == byte c then some s else none
  | [] => none

def date? (s : Bytes) : Option Bytes := do
  let year := s.takeWhile Bytes.isDigit
  if year.length != 4 then none
  else
    let s ← after? '-' (s.drop 4)
    let (month, s) ← numberIn? 1 12 s
    let s ← after? '-' s
    let (day, s) ← number? s
    if 1 ≤ day && day ≤ daysIn (Bytes.toNat year) month then some s else none

def fraction (s : Bytes) : Bytes :=
  match s with
  | p :: d :: t =>
    if (p == byte '.' || p == byte ',') && Bytes.isDigit d then t.dropWhile Bytes.isDigit else s
  | _ => s

def time? (s : Bytes) : Option Bytes := do
  let (_, s) ← numberIn? 0 23 s
  let s ← after? ':' s
  let (_, s) ← numberIn? 0 59 s
  let s ← after? ':' s
  let (_, s) ← numberIn? 0 59 s
  some (fraction s)

def isZone : Bytes → Bool
  | [90] => true
  | [sign, a, b, colon, c, d] =>
    (sign == byte '+' || sign == byte '-') && colon == byte ':' && [a, b, c, d].all Bytes.isDigit &&
      Bytes.toNat [a, b] ≤ 24 && Bytes.toNat [c, d] ≤ 60
  | _ => false

def isTimestamp (s : Bytes) : Bool :=
  match date? s with
  | none => false
  | some [] => true
  | some (c :: rest) =>
    if c == byte 'T' || c == byte 't' then
      match time? rest with
      | some zone => isZone zone
      | none => false
    else if c == byte ' ' then time? (rest.dropWhile (· == byte ' ')) == some []
    else false

end MarkdownTidy.Yaml.Timestamp
