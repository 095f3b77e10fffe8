import MarkdownTidy.Formatter
import MarkdownTidy.Text.Quoted

/-! Line ranges as they are given on the command line. -/

namespace MarkdownTidy.LineRange

/-- A text that is no line range. -/
structure ParseError where
  text : Bytes
  deriving DecidableEq, Repr

def ParseError.message (e : ParseError) : Bytes :=
  utf8 "invalid -lines " ++ Text.quote e.text ++ utf8 ": want a:b"

def skipBlanks : List Utf8.CodePoint → Option (List Utf8.CodePoint)
  | [] => some []
  | r :: rs =>
    if r.code == 10 then none
    else if Text.isBlank r.code then skipBlanks rs
    else some (r :: rs)

def isDigit (r : Utf8.CodePoint) : Bool := 48 ≤ r.code && r.code ≤ 57

def readInt (s : List Utf8.CodePoint) : Option (Int × List Utf8.CodePoint) := do
  let s ← skipBlanks s
  let (negative, s) :=
    match s with
    | r :: rs => if r.code == 45 then (true, rs) else if r.code == 43 then (false, rs) else (false, s)
    | [] => (false, [])
  let digits := s.takeWhile isDigit
  if digits.isEmpty then none
  else
    let size := Bytes.toNat (digits.flatMap (·.bytes))
    let value : Int := if negative then -size else size
    if value < -Int.pow 2 63 || value ≥ Int.pow 2 63 then none
    else some (value, s.dropWhile isDigit)

/-- Two numbers with a colon right after the first; what follows the second is not looked at. -/
def parse (text : Bytes) : Except ParseError LineRange :=
  match readInt (Utf8.codePoints text) with
  | some (first, colon :: rest) =>
    if colon.code == 58 then
      match readInt rest with
      | some (last, _) => .ok ⟨first, last⟩
      | none => .error ⟨text⟩
    else .error ⟨text⟩
  | _ => .error ⟨text⟩

end MarkdownTidy.LineRange
