import MarkdownTidy.Bytes

/-! Floating-point numbers of 53 bits. A decimal is read as the nearest one, and a number is written
with the fewest digits that read back. All arithmetic is on natural numbers. -/

namespace MarkdownTidy

/-- A finite number, `mantissa · 2 ^ exponent` with a sign. The mantissa has 53 bits unless the
exponent is least. -/
structure Double where
  negative : Bool
  mantissa : Nat
  exponent : Int
  deriving DecidableEq, Repr, Inhabited

namespace Double

def leastExponent : Int := -1074
def greatestExponent : Int := 971

def roundDiv (num den : Nat) : Nat :=
  let q := num / den
  let r := num % den
  if 2 * r < den then q
  else if 2 * r > den then q + 1
  else if q % 2 == 0 then q else q + 1

def ofRatio (negative : Bool) (num den : Nat) : Option Double :=
  if num == 0 then some ⟨negative, 0, leastExponent⟩
  else
    let guess : Int := (num.log2 : Int) - den.log2 - 52
    -- the quotient has `guess + 52` or `guess + 53` as the place of its highest bit
    let scaled (e : Int) : Nat × Nat :=
      if e ≥ 0 then (num, den * Nat.pow 2 e.toNat) else (num * Nat.pow 2 (-e).toNat, den)
    let (n, d) := scaled guess
    let guess := if n < d * Nat.pow 2 52 then guess - 1 else guess
    let e := max guess leastExponent
    let (n, d) := scaled e
    let m := roundDiv n d
    let (m, e) := if m == Nat.pow 2 53 then (Nat.pow 2 52, e + 1) else (m, e)
    if e > greatestExponent then none else some ⟨negative, m, e⟩

def ofDecimal (negative : Bool) (digits : Nat) (exponent : Int) : Option Double :=
  let size : Int := (toString digits).length + exponent
  if digits == 0 || size < -400 then some ⟨negative, 0, leastExponent⟩
  else if size > 400 then none
  else if exponent ≥ 0 then ofRatio negative (digits * Nat.pow 10 exponent.toNat) 1
  else ofRatio negative digits (Nat.pow 10 (-exponent).toNat)

/-! ### Writing -/

def bounds (x : Double) : Nat × Nat × Nat × Nat :=
  -- quarters of the unit of the mantissa
  let below := if x.mantissa == Nat.pow 2 52 && x.exponent > leastExponent then 1 else 2
  let (lo, v, hi) := (4 * x.mantissa - below, 4 * x.mantissa, 4 * x.mantissa + 2)
  if x.exponent ≥ 0 then
    let k := Nat.pow 2 x.exponent.toNat
    (lo * k, v * k, hi * k, 4)
  else (lo, v, hi, 4 * Nat.pow 2 (-x.exponent).toNat)

def onGrid (place : Int) (n num den : Nat) : Nat × Nat :=
  if place ≥ 0 then (n * Nat.pow 10 place.toNat * den, num)
  else (n * den, num * Nat.pow 10 (-place).toNat)

/-- The multiple of `10 ^ place` that reads back and is nearest, if there is one. -/
def hit? (x : Double) (place : Int) : Option Nat :=
  let (lo, v, hi, den) := x.bounds
  let closed := x.mantissa % 2 == 0
  let inside (n : Nat) : Bool :=
    let (a, l) := onGrid place n lo den
    let (_, h) := onGrid place n hi den
    if closed then l ≤ a && a ≤ h else l < a && a < h
  let (unit, w) := onGrid place 1 v den
  let n := w / unit
  let r := w % unit
  let down := inside n && n > 0
  let up := inside (n + 1)
  if down && up then
    some (if 2 * r < unit then n else if 2 * r > unit then n + 1 else if n % 2 == 0 then n else n + 1)
  else if down then some n
  else if up then some (n + 1)
  else none

def searchPlace (x : Double) : Nat → Int → Nat × Int
  | 0, place => (0, place)
  | fuel + 1, place =>
    match x.hit? place with
    | some n => (n, place)
    | none => searchPlace x fuel (place - 1)

def stripZeros : Nat → Nat → Int → Nat × Int
  | 0, n, e => (n, e)
  | fuel + 1, n, e => if n != 0 && n % 10 == 0 then stripZeros fuel (n / 10) (e + 1) else (n, e)

def shortest (x : Double) : Nat × Int :=
  if x.mantissa == 0 then (0, 0)
  else
    let (_, v, _, den) := x.bounds
    let top : Int := ((v.log2 : Int) - den.log2 + 1) * 30103 / 100000 + 2
    let (n, e) := searchPlace x 30 top
    stripZeros 30 n e

/-- The text of a number: in positional notation from a ten-thousandth up to a million exclusive,
otherwise with an exponent of at least two digits. -/
def text (x : Double) : Bytes :=
  let sign := if x.negative then utf8 "-" else []
  if x.mantissa == 0 then sign ++ utf8 "0"
  else
    let (n, e) := x.shortest
    let digits := decimal n
    let point : Int := digits.length + e
    let power := point - 1
    if power < -4 || power ≥ 6 then
      let tail := digits.drop 1
      let mark := if power < 0 then utf8 "e-" else utf8 "e+"
      let digitsOf := decimal power.natAbs
      sign ++ digits.take 1 ++ (if tail.isEmpty then [] else byte '.' :: tail) ++ mark ++
        (if digitsOf.length < 2 then byte '0' :: digitsOf else digitsOf)
    else if point ≤ 0 then sign ++ utf8 "0." ++ List.replicate (-point).toNat (byte '0') ++ digits
    else if e ≥ 0 then sign ++ digits ++ List.replicate e.toNat (byte '0')
    else sign ++ digits.take point.toNat ++ [byte '.'] ++ digits.drop point.toNat

end Double

end MarkdownTidy
