import MarkdownTidy.Document.Marker
import MarkdownTidy.Document.TextCursor
import MarkdownTidy.Proofs.Bytes.Cutting
import MarkdownTidy.Proofs.Text.Trimming
import MarkdownTidy.Writer.Code

/-! Plain documents: paragraphs, headings and code blocks, with no markup inside their text. The
outline of such a document is read off its lines one after the other. -/

namespace MarkdownTidy.Plain

/-! ### Lines -/

def Spaced (t : Bytes) : Prop :=
  ∀ r ∈ Utf8.codePoints t, Text.isBlank r.code = true → r.bytes = [byte ' ']

structure Trimmed (t : Bytes) : Prop where
  spaced : Spaced t
  head : t.head? ≠ some (byte ' ')
  last : t.getLast? ≠ some (byte ' ')

def markup : Bytes := utf8 "`[<*_~\\"

structure Phrase (t : Bytes) : Prop extends Trimmed t where
  noMarkup : ∀ b ∈ t, b ∉ markup

structure Words (t : Bytes) : Prop extends Phrase t where
  ne_nil : t ≠ []
  first : ∀ b ∈ t.head?, b ∉ utf8 "-+>|:"
  unmarked : ListMarker.read? t = none

structure Label (i : Bytes) : Prop extends Trimmed i where
  noMark : byte '`' ∉ i

def BlankLine (l : Bytes) : Prop := ∃ k, l = Bytes.spaces k

def WordLine (l : Bytes) : Prop :=
  ∃ k t m, Words t ∧ m ≤ 1 ∧ l = Bytes.spaces k ++ t ++ Bytes.spaces m

def DeepLine (l : Bytes) : Prop :=
  ∃ t, Bytes.newline ∉ t ∧ Bytes.isBlank t = false ∧ l = Bytes.spaces 4 ++ t

def FenceLine (l : Bytes) : Prop :=
  ∃ n j i m, 3 ≤ n ∧ Label i ∧ l = List.replicate n (byte '`') ++ (Bytes.spaces j ++ i ++ Bytes.spaces m)

def indent (l : Bytes) : Nat := (l.takeWhile (· == byte ' ')).length

def body (l : Bytes) : Bytes := Bytes.trim Bytes.isSpace l

def isRow (t : Bytes) : Bool := t.all (· == byte '=')

/-- A heading text without the run of number signs that closes it. -/
def unclosed (t : Bytes) : Bytes :=
  let kept := Bytes.trimRight (· == byte '#') t
  if kept.getLast?.all (· == byte ' ') then body kept else t

def heading? (t : Bytes) : Option (Nat × Bytes) :=
  let level := (t.takeWhile (· == byte '#')).length
  if level == 0 || level > 6 then none
  else
    match t.drop level with
    | [] => some (level, [])
    | b :: rest => if b == byte ' ' then some (level, unclosed (body rest)) else none

def fence? (l : Bytes) : Option (Nat × Bytes) :=
  let n := (l.takeWhile (· == byte '`')).length
  if n < 3 || (l.drop n).contains (byte '`') then none else some (n, body (l.drop n))

def closes (n : Nat) (l : Bytes) : Bool :=
  let (width, count) := Indent.measure l 0
  let run := ((l.drop count).takeWhile (· == byte '`')).length
  width < 4 && run ≥ n && Bytes.isBlank (l.drop (count + run))

/-! ### Spaces around a text -/

lemma spaced_append {b : UInt8} (hb : b < 0x80) (s t : Bytes) :
    Spaced (s ++ b :: t) ↔ Spaced s ∧ (Text.isBlank b.toNat = true → b = byte ' ') ∧ Spaced t := by
  simp only [Spaced, Utf8.codePoints_append_ascii hb, List.forall_mem_append, List.forall_mem_cons,
    List.cons.injEq, and_true]

lemma spaced_cons {b : UInt8} (hb : b < 0x80) (t : Bytes) :
    Spaced (b :: t) ↔ (Text.isBlank b.toNat = true → b = byte ' ') ∧ Spaced t := by
  simpa [Spaced] using spaced_append hb [] t

lemma spaced_spaces_append (k : Nat) (t : Bytes) : Spaced (Bytes.spaces k ++ t) ↔ Spaced t := by
  induction k with
  | zero => rfl
  | succ k ih =>
    rw [Bytes.spaces_succ, List.cons_append, spaced_cons (by decide), ih]
    simp

lemma Spaced.eq_of_isSpace {t : Bytes} (h : Spaced t) {b : UInt8} (hb : b ∈ t) (hs : Bytes.isSpace b = true) :
    b = byte ' ' := by
  have ha : b < 0x80 := by
    simp only [Bytes.isSpace, Bool.or_eq_true, beq_iff_eq] at hs
    rcases hs with (((rfl | rfl) | rfl) | rfl) | rfl <;> decide
  have hm : (⟨b.toNat, [b]⟩ : Utf8.CodePoint) ∈ Utf8.codePoints t := by
    obtain ⟨u, v, rfl⟩ := List.append_of_mem hb
    simp [Utf8.codePoints_append_ascii ha]
  have hn : b.toNat < 128 := UInt8.lt_iff_toNat_lt.mp ha
  have hb : Text.isBlank b.toNat = true := by simp [Text.isBlank, hn, Bytes.isTrimmed, hs]
  simpa using h _ hm hb

lemma Spaced.of_append_run {c : UInt8} (hc : c < 0x80) {s : Bytes} {n : Nat}
    (h : Spaced (s ++ List.replicate n c)) : Spaced s := by
  cases n with
  | zero => simpa using h
  | succ n =>
    rw [List.replicate_succ] at h
    exact ((spaced_append hc _ _).mp h).1

lemma Spaced.eq_spaces {s u : Bytes} (h : Spaced s) (hu : u ⊆ s)
    (hs : ∀ b ∈ u, Bytes.isSpace b = true) : u = Bytes.spaces u.length :=
  List.eq_replicate_iff.mpr ⟨rfl, fun b hb => h.eq_of_isSpace (hu hb) (hs b hb)⟩

lemma Spaced.trimmed_body {s : Bytes} (h : Spaced s) :
    Trimmed (body s) ∧ ∃ k m, s = Bytes.spaces k ++ body s ++ Bytes.spaces m := by
  have hl : s.takeWhile Bytes.isSpace ++ s.dropWhile Bytes.isSpace = s :=
    List.takeWhile_append_dropWhile
  have hr := List.rdropWhile_append_rtakeWhile (p := Bytes.isSpace) (l := s.dropWhile Bytes.isSpace)
  have hb : (s.dropWhile Bytes.isSpace).rdropWhile Bytes.isSpace = body s := by
    rw [body, Bytes.trim, Bytes.trimRight_eq_rdropWhile]
    rfl
  rw [hb] at hr
  have hk := h.eq_spaces (u := s.takeWhile Bytes.isSpace) (List.takeWhile_subset _)
    fun b => List.mem_takeWhile_imp
  have hm := h.eq_spaces (u := (s.dropWhile Bytes.isSpace).rtakeWhile Bytes.isSpace)
    (List.Subset.trans (List.rtakeWhile_suffix _ _).subset (List.dropWhile_subset _))
    fun b => List.mem_rtakeWhile_imp
  have hs : s = Bytes.spaces (s.takeWhile Bytes.isSpace).length ++ body s ++
      Bytes.spaces ((s.dropWhile Bytes.isSpace).rtakeWhile Bytes.isSpace).length := by
    rw [List.append_assoc, ← hk, ← hm, hr, hl]
  refine ⟨⟨?_, ?_, ?_⟩, _, _, hs⟩
  · rw [hs, List.append_assoc, spaced_spaces_append] at h
    exact h.of_append_run (by decide)
  · intro hh
    have hd := List.head?_dropWhile_not Bytes.isSpace s
    rw [← hr, List.head?_append, hh] at hd
    cases hd
  · intro hh
    have hne : (s.dropWhile Bytes.isSpace).rdropWhile Bytes.isSpace ≠ [] := by
      rw [hb]
      rintro h0
      simp [h0] at hh
    have hn := List.rdropWhile_last_not Bytes.isSpace _ hne
    rw [List.getLast?_eq_some_getLast (hb ▸ hne)] at hh
    simp only [hb, Option.some.inj hh] at hn
    exact hn rfl

section

variable {t : Bytes} (h : Trimmed t)
include h

lemma Trimmed.isSpace_head {b : UInt8} (hb : b ∈ t.head?) : Bytes.isSpace b = false := by
  rw [Bool.eq_false_iff]
  intro hs
  exact h.head (h.spaced.eq_of_isSpace (List.mem_of_head? hb) hs ▸ hb)

lemma Trimmed.isSpace_last {b : UInt8} (hb : b ∈ t.getLast?) : Bytes.isSpace b = false := by
  rw [Bool.eq_false_iff]
  intro hs
  exact h.last (h.spaced.eq_of_isSpace (List.mem_of_getLast? hb) hs ▸ hb)

lemma Trimmed.body_eq (k m : Nat) : body (Bytes.spaces k ++ t ++ Bytes.spaces m) = t :=
  Bytes.trim_append (fun _ => Bytes.isSpace_of_mem_spaces) (fun _ => Bytes.isSpace_of_mem_spaces)
    (fun _ => h.isSpace_head) (fun _ => h.isSpace_last)

lemma Trimmed.newline_notMem : Bytes.newline ∉ t := by
  intro hm
  exact absurd (h.spaced.eq_of_isSpace hm rfl) (by decide)

lemma Trimmed.indent_eq (ht : t ≠ []) (k : Nat) (s : Bytes) :
    indent (Bytes.spaces k ++ t ++ s) = k := by
  have hn : (t ++ s).takeWhile (· == byte ' ') = [] := by
    cases t with
    | nil => contradiction
    | cons b t =>
      have := h.head
      simp_all
  rw [indent, List.append_assoc, List.takeWhile_append_of_pos, hn, List.append_nil, Bytes.length_spaces]
  intro c hc
  simp [Bytes.eq_of_mem_spaces hc]

lemma Trimmed.isBlank_eq_false (ht : t ≠ []) (a s : Bytes) : Bytes.isBlank (a ++ t ++ s) = false := by
  cases t with
  | nil => contradiction
  | cons b t =>
    have hb : Bytes.isSpace b = false := h.isSpace_head rfl
    simp [Bytes.isBlank, hb]

end

/-! ### Blocks -/

inductive Block where
  | paragraph (lines : List Bytes)
  | heading (level : Nat) (text : Bytes)
  | code (label : Bytes) (lines : List Bytes)
  deriving DecidableEq, Repr

/-- What is open between two lines. -/
inductive Open where
  | nothing
  | heading (level : Nat) (text : Bytes)
  | paragraph (lines : List Bytes)
  | indented (lines : List Bytes)
  | fenced (marks : Nat) (label : Bytes) (lines : List Bytes)
  deriving DecidableEq, Repr

def dropBlankEnd (lines : List Bytes) : List Bytes := (lines.reverse.dropWhile Bytes.isBlank).reverse

namespace Open

def close : Open → List Block
  | nothing => []
  | heading level text => [.heading level text]
  | paragraph lines => [.paragraph lines]
  | indented lines => [.code [] (dropBlankEnd lines)]
  | fenced _ label lines => [.code label lines]

/-- What a line begins that belongs to no open block. -/
def start (l : Bytes) : Open :=
  if Bytes.isBlank l then nothing
  else if indent l ≥ 4 then indented [l.drop 4]
  else
    match fence? l, heading? (body l) with
    | some (n, label), _ => fenced n label []
    | none, some (level, text) => heading level text
    | none, none => paragraph [body l]

def step : Open → Bytes → List Block × Open
  | fenced n label lines, l =>
    if closes n l then ([.code label lines], nothing) else ([], fenced n label (lines ++ [l]))
  | indented lines, l =>
    if Bytes.isBlank l || indent l ≥ 4 then ([], indented (lines ++ [l.drop 4]))
    else ((indented lines).close, start l)
  | paragraph lines, l =>
    if Bytes.isBlank l then ([.paragraph lines], nothing)
    else if indent l ≥ 4 then ([], paragraph (lines ++ [body l]))
    else if (fence? l).isSome then ([.paragraph lines], start l)
    else if isRow (body l) then ([], heading 1 (Bytes.join [byte ' '] lines))
    else if (heading? (body l)).isSome then ([.paragraph lines], start l)
    else ([], paragraph (lines ++ [body l]))
  | o, l => (o.close, start l)

/-- The blocks of the lines that follow. -/
def outline : Open → List Bytes → List Block
  | o, [] => o.close
  | o, l :: ls => (o.step l).1 ++ outline (o.step l).2 ls

def Admits : Open → Bytes → Prop
  | fenced .., l => Bytes.newline ∉ l
  | paragraph _, l => BlankLine l ∨ WordLine l ∨ FenceLine l
  | _, l => BlankLine l ∨ DeepLine l ∨ WordLine l ∨ FenceLine l

/-- The lines of a plain document from some line on. -/
def AdmitsAll : Open → List Bytes → Prop
  | _, [] => True
  | o, l :: ls => o.Admits l ∧ AdmitsAll (o.step l).2 ls

end Open

end MarkdownTidy.Plain
