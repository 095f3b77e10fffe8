import MarkdownTidy.Bytes

/-! Tags as markdown recognizes them, in lines that begin an HTML block and inside text. -/

namespace MarkdownTidy.Html

def isAttributeSpace (b : UInt8) : Bool :=
  b == byte ' ' || b == byte '\t' || b == byte '\r' || b == byte '\n'

def isAttributeStart (b : UInt8) : Bool := Bytes.isLetter b || b == byte '_' || b == byte ':'

def isAttributeByte (b : UInt8) : Bool :=
  Bytes.isAlphanumeric b || b == byte ':' || b == byte '.' || b == byte '_' || b == byte '-'

def isBareByte (b : UInt8) : Bool :=
  b > 0x20 && b != byte '"' && b != byte '\'' && b != byte '=' && b != byte '<' && b != byte '>'
    && b != byte '`'

/-- The rest of a text after an attribute value with its equals sign. -/
def dropValue? (s : Bytes) : Option Bytes :=
  match s.dropWhile isAttributeSpace with
  | [] => none
  | b :: rest =>
    if b != byte '=' then none
    else
      match rest.dropWhile isAttributeSpace with
      | [] => none
      | q :: rest =>
        if q == byte '"' || q == byte '\'' then
          match rest.dropWhile (· != q) with
          | [] => none
          | _ :: after => some after
        else if isBareByte q then some (rest.dropWhile isBareByte)
        else none

def dropAttribute? (s : Bytes) : Option Bytes :=
  let body := s.dropWhile isAttributeSpace
  if body.length == s.length then none
  else
    match body with
    | [] => none
    | b :: rest =>
      if !isAttributeStart b then none
      else
        let after := rest.dropWhile isAttributeByte
        some ((dropValue? after).getD after)

def dropAttributes : Nat → Bytes → Bytes
  | 0, s => s
  | fuel + 1, s =>
    match dropAttribute? s with
    | none => s
    | some rest => dropAttributes fuel rest

def takeTagName? : Bytes → Option (Bytes × Bytes)
  | [] => none
  | b :: rest =>
    if !Bytes.isLetter b then none
    else
      let inName (c : UInt8) : Bool := Bytes.isAlphanumeric c || c == byte '-'
      some (b :: rest.takeWhile inName, rest.dropWhile inName)

/-- The length of the open tag that a text begins with. -/
def openTagLength? (s : Bytes) : Option Nat :=
  match s with
  | [] => none
  | b :: rest =>
    if b != byte '<' then none
    else
      match takeTagName? rest with
      | none => none
      | some (_, after) =>
        match (dropAttributes after.length after).dropWhile isAttributeSpace with
        | [] => none
        | b :: after =>
          if b == byte '>' then some (s.length - after.length)
          else if b == byte '/' && after.head? == some (byte '>') then
            some (s.length - after.length + 1)
          else none

def closeTagLength? (s : Bytes) : Option Nat :=
  match s with
  | b :: c :: rest =>
    if b != byte '<' || c != byte '/' then none
    else
      match takeTagName? rest with
      | none => none
      | some (_, after) =>
        match after.dropWhile isAttributeSpace with
        | [] => none
        | b :: after => if b == byte '>' then some (s.length - after.length) else none
  | _ => none

end MarkdownTidy.Html
