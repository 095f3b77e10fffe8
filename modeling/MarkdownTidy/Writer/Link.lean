import MarkdownTidy.Bytes

/-! Destinations and titles of links. -/

namespace MarkdownTidy.Writer

def balanced (depth : Nat) : Bytes → Bool
  | [] => depth == 0
  | b :: rest =>
    if b == byte '(' then balanced (depth + 1) rest
    else if b == byte ')' then depth != 0 && balanced (depth - 1) rest
    else balanced depth rest

def needsAngles (d : Bytes) : Bool :=
  d.isEmpty || !balanced 0 d || d.any fun b => (utf8 " \t\n<>").contains b

def destination (d : Bytes) : Bytes :=
  if needsAngles d then
    byte '<' ::
      (d.flatMap fun b => if b == byte '<' || b == byte '>' then [byte '\\', b] else [b]) ++
      [byte '>']
  else d

def linkTail (d title : Bytes) : Bytes :=
  let written := Bytes.replaceByte (byte '"') (utf8 "\\\"") title
  utf8 "(" ++ destination d ++ (if title.isEmpty then [] else utf8 " \"" ++ written ++ utf8 "\"") ++
    utf8 ")"

end MarkdownTidy.Writer
