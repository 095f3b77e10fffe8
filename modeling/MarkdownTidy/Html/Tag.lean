import MarkdownTidy.Html.Escape

/-! Reading the attributes of an HTML start tag. -/

namespace MarkdownTidy.Html

def isTagSpace (b : UInt8) : Bool :=
  b == byte ' ' || b == byte '\n' || b == byte '\r' || b == byte '\t' || b == 12

def endsKey (b : UInt8) : Bool :=
  isTagSpace b || b == byte '/' || b == byte '>' || b == byte '='

def takeKey : Bytes → Bytes × Bytes
  | [] => ([], [])
  | b :: rest =>
    if b == byte '=' then (b :: rest.takeWhile (!endsKey ·), rest.dropWhile (!endsKey ·))
    else ((b :: rest).takeWhile (!endsKey ·), (b :: rest).dropWhile (!endsKey ·))

def endsBareValue (b : UInt8) : Bool := isTagSpace b || b == byte '>'

def afterKey : Bytes → Bytes
  | [] => []
  | b :: rest => if isTagSpace b || b == byte '/' then rest else b :: rest

/-- Reads what follows an attribute name: the value as written, empty without one, and the rest. A
slash between the name and an equals sign is passed over. Fails where the input ends first. -/
def takeValue? (s : Bytes) : Option (Bytes × Bytes) :=
  match (afterKey s).dropWhile isTagSpace with
  | [] => none
  | b :: rest =>
    if b != byte '=' then some ([], b :: rest)
    else
      match rest.dropWhile isTagSpace with
      | [] => none
      | q :: rest =>
        if q == byte '>' then some ([], q :: rest)
        else if q == byte '"' || q == byte '\'' then
          match rest.dropWhile (· != q) with
          | [] => none
          | _ :: after => some (rest.takeWhile (· != q), after)
        else
          match (q :: rest).dropWhile (!endsBareValue ·) with
          | [] => none
          | after => some ((q :: rest).takeWhile (!endsBareValue ·), after)

def tagAttribute (key value : Bytes) : Bytes × Bytes :=
  (Bytes.lowerAscii key, unescape true (convertNewlines value))

/-- Reads attributes up to the end of the tag; returns them and what follows the tag. -/
def tagAttributesUpTo : Nat → Bytes → Option (List (Bytes × Bytes) × Bytes)
  | 0, _ => none
  | fuel + 1, s =>
    match s.dropWhile isTagSpace with
    | [] => none
    | b :: rest =>
      if b == byte '>' then some ([], rest)
      else
        let (key, after) := takeKey (b :: rest)
        match takeValue? after with
        | none => none
        | some (value, after) =>
          match tagAttributesUpTo fuel after with
          | none => none
          | some (attrs, final) =>
            some (if key.isEmpty then attrs else tagAttribute key value :: attrs, final)

def tagAttributes? (s : Bytes) : Option (List (Bytes × Bytes)) :=
  (tagAttributesUpTo (s.length + 1) s).map (·.1)

end MarkdownTidy.Html
