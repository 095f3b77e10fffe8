import MarkdownTidy.Bytes

/-! A span is a stretch of one source line, by byte offsets. Padding counts the columns of a tab that
was only partly taken by a container; they read as spaces in front of the stretch. -/

namespace MarkdownTidy

structure Span where
  start : Nat
  stop : Nat
  padding : Nat := 0
  deriving DecidableEq, Repr, Inhabited

namespace Span

def value (s : Span) (source : Bytes) : Bytes :=
  Bytes.spaces s.padding ++ Bytes.slice source s.start s.stop

def length (s : Span) : Nat := s.stop - s.start + s.padding

def isEmpty (s : Span) : Bool := s.start ≥ s.stop && s.padding == 0

def trimLeft (s : Span) (source : Bytes) : Span :=
  let v := Bytes.slice source s.start s.stop
  ⟨s.start + (v.takeWhile Bytes.isSpace).length, s.stop, 0⟩

def trimRight (s : Span) (source : Bytes) : Span :=
  let v := Bytes.slice source s.start s.stop
  let kept := (Bytes.trimRight Bytes.isSpace v).length
  if kept == 0 then ⟨s.start, s.start, 0⟩ else ⟨s.start, s.start + kept, s.padding⟩

def dropColumns (s : Span) (source : Bytes) (width : Nat) : Span :=
  if width ≤ s.padding then { s with padding := s.padding - width }
  else go (width - s.padding) s.start (Bytes.slice source s.start s.stop)
where
  go (width start : Nat) : Bytes → Span
    | [] => ⟨start, s.stop, 0⟩
    | c :: rest =>
      if start + 1 ≥ s.stop || width == 0 then ⟨start, s.stop, 0⟩
      else if c == byte ' ' then go (width - 1) (start + 1) rest
      else if c == byte '\t' then
        if width < 4 then ⟨start + 1, s.stop, 4 - width⟩ else go (width - 4) (start + 1) rest
      else ⟨start, s.stop, 0⟩

end Span

def spansValue (source : Bytes) (spans : List Span) : Bytes := spans.flatMap (·.value source)

end MarkdownTidy
