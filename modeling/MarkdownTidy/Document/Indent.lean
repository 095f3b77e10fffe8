import MarkdownTidy.Bytes

/-! Columns. A tab reaches to the next multiple of four. -/

namespace MarkdownTidy.Indent

def tabWidth (column : Nat) : Nat := 4 - column % 4

def column (s : Bytes) : Nat :=
  s.foldl (fun v c => if c == byte '\t' then v + tabWidth v else v + 1) 0

def measure (s : Bytes) (at_ : Nat) : Nat × Nat := go 0 0 s
where
  go (width count : Nat) : Bytes → Nat × Nat
    | [] => (width, count)
    | c :: rest =>
      if c == byte ' ' then go (width + 1) (count + 1) rest
      else if c == byte '\t' then go (width + tabWidth (at_ + width)) (count + 1) rest
      else (width, count)

def take? (s : Bytes) (at_ padding width : Nat) : Option (Nat × Nat) :=
  if width == 0 then some (0, padding) else go 0 0 padding s
where
  finish (count w : Nat) : Option (Nat × Nat) :=
    if w ≥ width then some (count - padding, w - width) else none
  go (count w : Nat) : Nat → Bytes → Option (Nat × Nat)
    | _, [] => finish count w
    | p + 1, _ :: rest => go (count + 1) (w + 1) p rest
    | 0, c :: rest =>
      if c == byte '\t' && w < width then go (count + 1) (w + tabWidth (at_ + w)) 0 rest
      else if c == byte ' ' && w < width then go (count + 1) (w + 1) 0 rest
      else finish count w

def firstNonSpace? : Bytes → Option Nat
  | [] => none
  | c :: rest =>
    if c == byte ' ' || c == byte '\t' then (firstNonSpace? rest).map (· + 1)
    else if c == Bytes.newline then none
    else some 0

end MarkdownTidy.Indent
