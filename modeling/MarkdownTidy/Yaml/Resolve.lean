import MarkdownTidy.Number.Double
import MarkdownTidy.Yaml.Node
import MarkdownTidy.Yaml.Timestamp

/-! What a scalar means, from its text. -/

namespace MarkdownTidy.Yaml

/-- What a scalar stands for. -/
inductive Datum where
  | null
  | bool (b : Bool)
  | int (n : Int)
  | float (x : Double)
  | infinity (negative : Bool)
  | notANumber
  | timestamp
  | str (s : Bytes)
  deriving DecidableEq, Repr, Inhabited

def Datum.tag : Datum → Bytes
  | null => Tag.null
  | bool _ => Tag.bool
  | int _ => Tag.int
  | float _ | infinity _ | notANumber => Tag.float
  | timestamp => Tag.timestamp
  | str _ => Tag.str

namespace Resolve

/-- The words for truth values: `true` and `false` alone, or also `yes`, `no`, `on`, `off`, `y` and
`n`. -/
inductive Words where
  | few
  | many
  deriving DecidableEq, Repr

def isWordOf (words : List String) (s : Bytes) : Bool :=
  words.any fun w =>
    let w := utf8 w
    s == w || s == w.map Bytes.upperByte ||
      s == (w.take 1).map Bytes.upperByte ++ w.drop 1

def truth? (w : Words) (s : Bytes) : Option Bool :=
  if isWordOf ["true"] s then some true
  else if isWordOf ["false"] s then some false
  else if w == .few then none
  else if isWordOf ["y", "yes", "on"] s then some true
  else if isWordOf ["n", "no", "off"] s then some false
  else none

def word? (w : Words) (s : Bytes) : Option Datum :=
  if s.isEmpty || s == utf8 "~" || isWordOf ["null"] s then some .null
  else if [".nan", ".NaN", ".NAN"].any (utf8 · == s) then some .notANumber
  else if [".inf", ".Inf", ".INF", "+.inf", "+.Inf", "+.INF"].any (utf8 · == s) then
    some (.infinity false)
  else if ["-.inf", "-.Inf", "-.INF"].any (utf8 · == s) then some (.infinity true)
  else (truth? w s).map .bool

/-! ### Numbers -/

def digits? (base : Nat) (s : Bytes) : Option Nat :=
  s.foldl (fun acc d => acc.bind fun n =>
    if (Bytes.isHexDigit d && Bytes.hexValue d < base) then some (n * base + Bytes.hexValue d)
    else none) (some 0)

def unsigned? (s : Bytes) : Option Nat :=
  match s with
  | [] => none
  | 48 :: p :: d :: rest =>
    let p := Bytes.lowerByte p
    if p == byte 'b' then digits? 2 (d :: rest)
    else if p == byte 'o' then digits? 8 (d :: rest)
    else if p == byte 'x' then digits? 16 (d :: rest)
    else digits? 8 (s.drop 1)
  | 48 :: rest => digits? 8 rest
  | _ => digits? 10 s

def splitSign : Bytes → Bool × Bytes
  | 43 :: s => (false, s)
  | 45 :: s => (true, s)
  | s => (false, s)

def signed? (read? : Bytes → Option Nat) (s : Bytes) : Option Int :=
  let (negative, digits) := splitSign s
  (read? digits).bind fun n =>
    if negative then (if n ≤ Nat.pow 2 63 then some (-(n : Int)) else none)
    else if n < Nat.pow 2 63 then some (n : Int) else none

def someDigits? (base : Nat) (s : Bytes) : Option Nat := if s.isEmpty then none else digits? base s

def integer? (s : Bytes) : Option Int :=
  let wide (read? : Bytes → Option Nat) (s : Bytes) : Option Int :=
    (signed? read? s).or (((read? s).filter (· < Nat.pow 2 64)).map Int.ofNat)
  (wide unsigned? s).or <|
    match s with
    | 48 :: 98 :: rest => wide (someDigits? 2) rest
    | 45 :: 48 :: 98 :: rest => signed? (someDigits? 2) (byte '-' :: rest)
    | 48 :: 111 :: rest => wide (someDigits? 8) rest
    | 45 :: 48 :: 111 :: rest => signed? (someDigits? 8) (byte '-' :: rest)
    | _ => none

def exponent? : Bytes → Option Int
  | [] => some 0
  | e :: s =>
    if e != byte 'e' && e != byte 'E' then none
    else
      let (negative, digits) := splitSign s
      if digits.isEmpty || !digits.all Bytes.isDigit then none
      else some (if negative then -(Bytes.toNat digits : Int) else Bytes.toNat digits)

def decimal? (s : Bytes) : Option Double :=
  let (negative, s) := splitSign s
  let whole := s.takeWhile Bytes.isDigit
  let rest := s.dropWhile Bytes.isDigit
  let (part, tail, pointed) :=
    match rest with
    | 46 :: t => (t.takeWhile Bytes.isDigit, t.dropWhile Bytes.isDigit, true)
    | t => ([], t, false)
  if whole.isEmpty && (!pointed || part.isEmpty) then none
  else
    (exponent? tail).bind fun e =>
      Double.ofDecimal negative (Bytes.toNat (whole ++ part)) (e - part.length)

def joinDigits? : Option UInt8 → Bytes → Option Bytes
  | _, [] => some []
  | before, c :: s =>
    if c == byte '_' then
      if before.any Bytes.isDigit && s.head?.any Bytes.isDigit then joinDigits? (some c) s else none
    else (joinDigits? (some c) s).map (c :: ·)

/-- What a plain text means. Its first character says what is worth trying. `dates` says whether it
may be a timestamp. -/
def plain (w : Words) (dates : Bool) (s : Bytes) : Datum :=
  match s with
  | [] => .null
  | c :: _ =>
    let worded := (utf8 "yYnNtTfFoO~.+-").contains c || Bytes.isDigit c
    match (if worded then word? w s else none) with
    | some d => d
    | none =>
      if c == byte '.' then
        match (joinDigits? none s).bind decimal? with
        | some x => .float x
        | none => .str s
      else if Bytes.isDigit c || c == byte '+' || c == byte '-' then
        if dates && Timestamp.isTimestamp s then .timestamp
        else
          let bare := s.filter (· != byte '_')
          match integer? bare, decimal? bare with
          | some n, _ => .int n
          | none, some x => .float x
          | none, none => .str s
      else .str s

def tagOf (s : Bytes) : Bytes := (plain .few true s).tag

def isKnown (tag : Bytes) : Bool :=
  [Tag.bool, Tag.int, Tag.float, Tag.null, Tag.timestamp].contains tag

/-- What a scalar with a tag means. A tag of no known meaning, or that of a text, leaves the text; an
integer may be given where a fraction is asked for. -/
def tagged (w : Words) (tag s : Bytes) : Except Fault Datum :=
  if !isKnown tag then .ok (.str s)
  else
    let d := plain w (tag == Tag.timestamp) s
    if d.tag == tag then .ok d
    else
      match d with
      | .int n =>
        if tag == Tag.float then
          match Double.ofDecimal (n < 0) n.natAbs 0 with
          | some x => .ok (.float x)
          | none => .ok (.str s)
        else .error (.notOfTag d.tag s tag)
      | _ => .error (.notOfTag d.tag s tag)

end Resolve

end MarkdownTidy.Yaml
