/-! Texts are byte strings: documents need not be valid UTF-8, and every offset counts bytes.
This module has the searches, cuts and ASCII classes the rest of the library is written in. -/

namespace MarkdownTidy

abbrev Bytes := List UInt8

def utf8 (s : String) : Bytes := s.toUTF8.data.toList

@[inline] def byte (c : Char) : UInt8 := c.toNat.toUInt8

def decimal (n : Nat) : Bytes := utf8 (toString n)

def decimalInt (n : Int) : Bytes := utf8 (toString n)

namespace Bytes

def newline : UInt8 := 10

def spaces (n : Nat) : Bytes := List.replicate n (byte ' ')

/-! ### ASCII classes -/

def isSpace (c : UInt8) : Bool := c == 32 || c == 9 || c == 10 || c == 12 || c == 13

def isTrimmed (c : UInt8) : Bool := isSpace c || c == 11

def isDigit (c : UInt8) : Bool := 48 ≤ c && c ≤ 57
def isUpper (c : UInt8) : Bool := 65 ≤ c && c ≤ 90
def isLower (c : UInt8) : Bool := 97 ≤ c && c ≤ 122
def isLetter (c : UInt8) : Bool := isUpper c || isLower c
def isAlphanumeric (c : UInt8) : Bool := isLetter c || isDigit c

def isPunct (c : UInt8) : Bool :=
  (33 ≤ c && c ≤ 47) || (58 ≤ c && c ≤ 64) || (91 ≤ c && c ≤ 96) || (123 ≤ c && c ≤ 126)

def isHexDigit (c : UInt8) : Bool :=
  isDigit c || (65 ≤ c && c ≤ 70) || (97 ≤ c && c ≤ 102)

def lowerByte (c : UInt8) : UInt8 := if isUpper c then c + 32 else c

def upperByte (c : UInt8) : UInt8 := if isLower c then c - 32 else c

def lowerAscii (s : Bytes) : Bytes := s.map lowerByte

def hexValue (c : UInt8) : Nat :=
  if isDigit c then c.toNat - 48
  else if 97 ≤ c && c ≤ 102 then c.toNat - 87
  else if 65 ≤ c && c ≤ 70 then c.toNat - 55
  else 0

def hexDigit (n : Nat) : UInt8 := if n < 10 then (48 + n).toUInt8 else (87 + n).toUInt8

def hexDigitUpper (n : Nat) : UInt8 := if n < 10 then (48 + n).toUInt8 else (55 + n).toUInt8

def isBlank (s : Bytes) : Bool := s.all isSpace

def toNat (s : Bytes) : Nat := s.foldl (fun n c => n * 10 + (c.toNat - 48)) 0

/-! ### Cuts -/

def trimLeft (p : UInt8 → Bool) (s : Bytes) : Bytes := s.dropWhile p

def trimRight (p : UInt8 → Bool) : Bytes → Bytes
  | [] => []
  | c :: s =>
    match trimRight p s with
    | [] => if p c then [] else [c]
    | r => c :: r

def trim (p : UInt8 → Bool) (s : Bytes) : Bytes := trimRight p (trimLeft p s)

def slice (s : Bytes) (start stop : Nat) : Bytes := (s.drop start).take (stop - start)

/-- The pieces between the occurrences of a separator byte, at least one. -/
def split (sep : UInt8) : Bytes → List Bytes
  | [] => [[]]
  | c :: s =>
    if c == sep then [] :: split sep s
    else
      match split sep s with
      | [] => [[c]]
      | p :: ps => (c :: p) :: ps

/-- The lines of a text, each with its line feed; a final empty line is not counted. -/
def lines : Bytes → List Bytes
  | [] => []
  | c :: s =>
    if c == newline then [c] :: lines s
    else
      match lines s with
      | [] => [[c]]
      | l :: ls => (c :: l) :: ls

def join (sep : Bytes) (parts : List Bytes) : Bytes := sep.intercalate parts

/-! ### Searches -/

def indexOf? (c : UInt8) : Bytes → Option Nat
  | [] => none
  | d :: s => if d == c then some 0 else (indexOf? c s).map (· + 1)

def lastIndexOf? (c : UInt8) : Bytes → Option Nat
  | [] => none
  | d :: s =>
    match lastIndexOf? c s with
    | some i => some (i + 1)
    | none => if d == c then some 0 else none

def find? (needle : Bytes) : Bytes → Option Nat
  | [] => if needle.isEmpty then some 0 else none
  | c :: s => if needle.isPrefixOf (c :: s) then some 0 else (find? needle s).map (· + 1)

def includes (s needle : Bytes) : Bool := (find? needle s).isSome

def startsWith (s p : Bytes) : Bool := p.isPrefixOf s

def endsWith (s p : Bytes) : Bool := p.isSuffixOf s

def le : Bytes → Bytes → Bool
  | [], _ => true
  | _ :: _, [] => false
  | a :: s, b :: t => if a < b then true else if b < a then false else le s t

def longestRun (c : UInt8) (s : Bytes) : Nat :=
  (s.foldl (fun (acc : Nat × Nat) d =>
    if d == c then (max acc.1 (acc.2 + 1), acc.2 + 1) else (acc.1, 0)) (0, 0)).1

def replaceByte (c : UInt8) (by_ : Bytes) (s : Bytes) : Bytes :=
  s.flatMap fun d => if d == c then by_ else [d]

end Bytes

end MarkdownTidy
