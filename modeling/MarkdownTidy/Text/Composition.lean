import MarkdownTidy.Text.Case
import MarkdownTidy.Text.CombiningClass
import MarkdownTidy.Text.Decomposition
import MarkdownTidy.Text.Utf8

/-! Canonical composition: every character is decomposed, marks are put in canonical order, and what
can be composed is composed again. Texts that look alike become equal. -/

namespace MarkdownTidy.Text

/-! ### Long runs of marks

A run is broken up by a combining grapheme joiner, so that composing a text never needs more than a
bounded number of marks at a time. -/

def markLikeTable : RangeTable := [
  (0x3133, 0x3133), (0x3135, 0x3136), (0x313A, 0x313F), (0x314F, 0x3163), (0xFF9E, 0xFF9F),
  (0xFFA3, 0xFFA3), (0xFFA5, 0xFFA6), (0xFFAA, 0xFFAF), (0xFFC2, 0xFFC7), (0xFFCA, 0xFFCF),
  (0xFFD2, 0xFFD7), (0xFFDA, 0xFFDC)]

def endingMarksTable : List (Nat × Nat × Nat) := [
  (0xA8, 0xA8, 1), (0xAF, 0xAF, 1), (0xB4, 0xB4, 1), (0xB8, 0xB8, 1), (0x1C4, 0x1C6, 1),
  (0x2D8, 0x2DD, 1), (0x37A, 0x37A, 1), (0x384, 0x384, 1), (0x385, 0x385, 2), (0xF77, 0xF77, 2),
  (0xF79, 0xF79, 2), (0x1FBD, 0x1FBD, 1), (0x1FBF, 0x1FC0, 1), (0x1FC1, 0x1FC1, 2),
  (0x1FCD, 0x1FCF, 2), (0x1FDD, 0x1FDF, 2), (0x1FED, 0x1FEE, 2), (0x1FFD, 0x1FFE, 1),
  (0x2017, 0x2017, 1), (0x203E, 0x203E, 1), (0x309B, 0x309C, 1), (0x326E, 0x327E, 1),
  (0x3304, 0x3304, 1), (0x3307, 0x3307, 1), (0x3310, 0x3310, 1), (0x331E, 0x331E, 1),
  (0x3321, 0x3321, 1), (0x3332, 0x3332, 1), (0x333B, 0x333B, 1), (0x3340, 0x3340, 1),
  (0x334B, 0x334B, 1), (0x334E, 0x334E, 1), (0xFBA4, 0xFBA5, 1), (0xFBB0, 0xFBB1, 1),
  (0xFC5B, 0xFC5D, 1), (0xFC5E, 0xFC63, 2), (0xFC90, 0xFC90, 1), (0xFCD9, 0xFCD9, 1),
  (0xFCF2, 0xFCF4, 2), (0xFD3C, 0xFD3D, 1), (0xFE49, 0xFE4C, 1), (0xFE70, 0xFE72, 1),
  (0xFE74, 0xFE74, 1), (0xFE76, 0xFE7F, 1), (0xFE81, 0xFE8C, 1), (0xFEF5, 0xFEFA, 1),
  (0xFFE3, 0xFFE3, 1), (0x1F213, 0x1F213, 1)]

def combinesBackward (n : Nat) : Bool :=
  (0x1161 ≤ n && n ≤ 0x1175) || (0x11A8 ≤ n && n ≤ 0x11C2) ||
    composedTable.any fun e => e.2.2 == n

def isMarkLike (n : Nat) : Bool := combiningClass n != 0 || combinesBackward n

def markCounts (n : Nat) (decomposed : List Nat) : Nat × Nat :=
  if n < 0xA8 then (0, 0)
  else if markLikeTable.contains n then (1, 1)
  else
    match endingMarksTable.find? (fun r => r.1 ≤ n && n ≤ r.2.1) with
    | some r => (0, r.2.2)
    | none =>
      ((decomposed.takeWhile isMarkLike).length, (decomposed.reverse.takeWhile isMarkLike).length)

def longestMarkRun : Nat := 30

def graphemeJoiner : Nat := 0x34F

/-! ### Decomposing and composing -/

def decomposeHangul (n : Nat) : List Nat :=
  let s := n - 0xAC00
  let lv := [0x1100 + s / 588, 0x1161 + s % 588 / 28]
  if s % 28 == 0 then lv else lv ++ [0x11A7 + s % 28]

def decompose : Nat → Nat → List Nat
  | 0, n => [n]
  | depth + 1, n =>
    if n < 0xC0 then [n]
    else if 0xAC00 ≤ n && n ≤ 0xD7A3 then decomposeHangul n
    else
      match composedTable.find? (·.1 == n), uncomposedTable.find? (·.1 == n),
        aliasTable.find? (·.1 == n) with
      | some (_, a, b), _, _ | none, some (_, a, b), _ => decompose depth a ++ decompose depth b
      | none, none, some (_, a) => decompose depth a
      | none, none, none => [n]

def decompositionDepth : Nat := 5

def compose? (a b : Nat) : Option Nat :=
  if 0x1100 ≤ a && a < 0x1113 && 0x1161 ≤ b && b < 0x1176 then
    some (0xAC00 + ((a - 0x1100) * 21 + (b - 0x1161)) * 28)
  else if 0xAC00 ≤ a && a ≤ 0xD7A3 && (a - 0xAC00) % 28 == 0 && 0x11A8 ≤ b && b < 0x11C3 then
    some (a + (b - 0x11A7))
  else (composedTable.find? fun e => e.2.1 == a && e.2.2 == b).map (·.1)

/-- A character of the text: a code point, or an ill-formed byte that nothing combines with. -/
inductive TextUnit where
  | code (n : Nat)
  | raw (b : Bytes)
  deriving DecidableEq, Repr

def TextUnit.class : TextUnit → Nat
  | .code n => combiningClass n
  | .raw _ => 0

def TextUnit.bytes : TextUnit → Bytes
  | .code n => Utf8.encode n
  | .raw b => b

def unitsFrom (run : Nat) : List Utf8.CodePoint → List TextUnit
  | [] => []
  | r :: rs =>
    if r.isInvalid then .raw r.bytes :: unitsFrom 0 rs
    else
      let codes := decompose decompositionDepth r.code
      let (front, back) := markCounts r.code codes
      let units := codes.map TextUnit.code
      if front == 0 then units ++ unitsFrom back rs
      else if run + front > longestMarkRun then .code graphemeJoiner :: units ++ unitsFrom front rs
      else units ++ unitsFrom (run + front) rs

def textUnits (s : Bytes) : List TextUnit := unitsFrom 0 (Utf8.codePoints s)

def insertMark (u : TextUnit) : List TextUnit → List TextUnit
  | [] => [u]
  | v :: vs => if u.class != 0 && v.class > u.class then v :: insertMark u vs else u :: v :: vs

def orderMarks (units : List TextUnit) : List TextUnit :=
  (units.foldl (fun acc u => insertMark u acc) []).reverse

/-- Composes units in canonical order: `starter` is the last unit of class zero, `marks` the units after
it that did not compose, in reverse. -/
def composeFrom (starter : Option Nat) (marks : List TextUnit) : List TextUnit → List TextUnit
  | [] => flush starter marks
  | u :: rest =>
    match starter, u with
    | some s, .code n =>
      let c := combiningClass n
      let blocked :=
        match marks with
        | [] => false
        | m :: _ => m.class == 0 || m.class ≥ c
      match if blocked then none else compose? s n with
      | some composite => composeFrom (some composite) marks rest
      | none =>
        if c == 0 then flush starter marks ++ composeFrom (some n) [] rest
        else composeFrom starter (u :: marks) rest
    | none, .code n =>
      if combiningClass n == 0 then marks.reverse ++ composeFrom (some n) [] rest
      else composeFrom none (u :: marks) rest
    | _, .raw _ => flush starter marks ++ u :: composeFrom none [] rest
where
  flush (starter : Option Nat) (marks : List TextUnit) : List TextUnit :=
    (starter.map TextUnit.code).toList ++ marks.reverse

def compose (s : Bytes) : Bytes :=
  if isAscii s then s else (composeFrom none [] (orderMarks (textUnits s))).flatMap (·.bytes)

end MarkdownTidy.Text
