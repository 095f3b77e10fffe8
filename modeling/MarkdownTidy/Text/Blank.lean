import MarkdownTidy.Text.Utf8

/-! White space beyond ASCII: the characters with the property `White_Space`. -/

namespace MarkdownTidy.Text

def blankTable : RangeTable := [
  (0x9, 0xD), (0x20, 0x20), (0x85, 0x85), (0xA0, 0xA0), (0x1680, 0x1680), (0x2000, 0x200A),
  (0x2028, 0x2029), (0x202F, 0x202F), (0x205F, 0x205F), (0x3000, 0x3000)]

def isBlank (n : Nat) : Bool :=
  if n < 128 then Bytes.isTrimmed n.toUInt8 else blankTable.contains n

def trimStartPoints : List Utf8.CodePoint → List Utf8.CodePoint
  | [] => []
  | r :: rs => if isBlank r.code then trimStartPoints rs else r :: rs

def trimSpace (s : Bytes) : Bytes :=
  ((trimStartPoints (trimStartPoints (Utf8.codePoints s)).reverse).reverse).flatMap (·.bytes)

def fieldsFrom : Bytes → List Utf8.CodePoint → List Bytes
  | cur, [] => if cur.isEmpty then [] else [cur]
  | cur, r :: rs =>
    if isBlank r.code then
      if cur.isEmpty then fieldsFrom [] rs else cur :: fieldsFrom [] rs
    else fieldsFrom (cur ++ r.bytes) rs

def fields (s : Bytes) : List Bytes := fieldsFrom [] (Utf8.codePoints s)

end MarkdownTidy.Text
