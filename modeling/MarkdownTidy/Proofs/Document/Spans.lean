import MarkdownTidy.Document.LineCursor
import MarkdownTidy.Proofs.Bytes.Cutting

/-! The text that a span holds, and cursors that stay on their line. -/

namespace MarkdownTidy

structure Span.Covers (source : Bytes) (s : Span) (t : Bytes) : Prop where
  padding : s.padding = 0
  stop : s.stop = s.start + t.length
  isPrefix : t <+: source.drop s.start

namespace Span.Covers

variable {source t a b : Bytes} {s : Span}

lemma slice_eq (h : s.Covers source t) : Bytes.slice source s.start s.stop = t := by
  rw [Bytes.slice, h.stop, Nat.add_sub_cancel_left, List.prefix_iff_eq_take.mp h.isPrefix]
  simp

lemma value_eq (h : s.Covers source t) : s.value source = t := by
  rw [Span.value, h.slice_eq, h.padding]
  rfl

lemma length_eq (h : s.Covers source t) : s.length = t.length := by
  rw [Span.length, h.stop, h.padding]
  omega

lemma part (h : s.Covers source (a ++ t ++ b)) :
    Span.Covers source ⟨s.start + a.length, s.start + a.length + t.length, 0⟩ t := by
  refine ⟨rfl, rfl, ?_⟩
  obtain ⟨r, hr⟩ := h.isPrefix
  rw [← List.drop_drop, ← hr, List.append_assoc, List.append_assoc, List.drop_left]
  exact List.prefix_append _ _

lemma behind (h : s.Covers source (a ++ t)) : Span.Covers source ⟨s.start + a.length, s.stop, 0⟩ t := by
  have hp := part (b := []) (by simpa using h)
  refine ⟨rfl, ?_, hp.isPrefix⟩
  rw [h.stop, List.length_append, Nat.add_assoc]

lemma append (h : s.Covers source a) (hb : b <+: source.drop s.stop) :
    Span.Covers source ⟨s.start, s.stop + b.length, 0⟩ (a ++ b) := by
  refine ⟨rfl, ?_, ?_⟩
  · rw [h.stop, List.length_append, Nat.add_assoc]
  · obtain ⟨r, hr⟩ := h.isPrefix
    rw [h.stop, ← List.drop_drop, ← hr, List.drop_left] at hb
    rw [← hr]
    exact (List.prefix_append_right_inj a).mpr hb

lemma trimLeft (h : s.Covers source (a ++ t)) (ha : ∀ c ∈ a, Bytes.isSpace c = true)
    (ht : ∀ c ∈ t.head?, Bytes.isSpace c = false) : (s.trimLeft source).Covers source t := by
  have hw : t.takeWhile Bytes.isSpace = [] := by
    cases t with
    | nil => rfl
    | cons c t => simpa using ht c rfl
  rw [Span.trimLeft, h.slice_eq, List.takeWhile_append_of_pos ha, hw, List.append_nil]
  exact h.behind

lemma trimRight (h : s.Covers source (t ++ b)) (hb : ∀ c ∈ b, Bytes.isSpace c = true)
    (ht : ∀ c ∈ t.getLast?, Bytes.isSpace c = false) (hne : t ≠ []) :
    (s.trimRight source).Covers source t := by
  have hp := part (a := []) (by simpa using h)
  have hl : t.length ≠ 0 := by simpa using hne
  simp only [Span.trimRight, h.slice_eq, Bytes.trimRight_append_of_all hb, Bytes.trimRight_eq_self ht,
    beq_iff_eq, hl, if_false, h.padding]
  simpa using hp

end Span.Covers

namespace LineCursor

def SameLine (c d : LineCursor) : Prop := d.number = c.number ∧ d.line = c.line ∧ d.later = c.later

lemma SameLine.refl (c : LineCursor) : c.SameLine c := ⟨rfl, rfl, rfl⟩

lemma advance_eq {c : LineCursor} {n : Nat} (hp : c.padding = 0)
    (hn : n < c.line.text.length - c.taken) : c.advance n = { c with taken := c.taken + n } := by
  obtain ⟨number, line, taken, padding, later⟩ := c
  obtain rfl : padding = 0 := hp
  rw [advance]
  cases later <;> rw [advance.go] <;> cases n <;> simp_all

/-- The cursor in front of the first of the lines that are left. -/
def front (number start : Nat) : List Bytes → LineCursor
  | [] => ⟨number, ⟨start, []⟩, 0, 0, []⟩
  | l :: ls => ⟨number, ⟨start, l ++ [Bytes.newline]⟩, 0, 0,
      sourceLines (start + (l.length + 1)) (ls.map (· ++ [Bytes.newline]))⟩

variable {number start : Nat} {l : Bytes} {ls : List Bytes}

lemma nextLine_of_sameLine {c : LineCursor} (h : (front number start (l :: ls)).SameLine c) :
    c.nextLine = front (number + 1) (start + (l.length + 1)) ls := by
  obtain ⟨hn, hl, ht⟩ := h
  rw [nextLine, hn, hl, ht]
  cases ls <;> simp [front, sourceLines]

lemma ofSource_unlines (h : ∀ l ∈ ls, Bytes.newline ∉ l) : ofSource (Bytes.unlines ls) = front 0 0 ls := by
  rw [ofSource, Bytes.lines_unlines h]
  cases ls <;> simp [front, sourceLines]

@[simp] lemma peek?_front_nil : (front number start []).peek? = none := rfl

@[simp] lemma peek?_front_cons :
    (front number start (l :: ls)).peek? = some (l ++ [Bytes.newline]) := by
  simp only [peek?, front, List.drop_zero]
  cases l <;> rfl

@[simp] lemma rest_front_cons : (front number start (l :: ls)).rest = l ++ [Bytes.newline] := by
  rw [rest, peek?_front_cons, Option.getD_some]

@[simp] lemma column_front : (front number start ls).column = 0 := by cases ls <;> rfl

@[simp] lemma number_front : (front number start ls).number = number := by cases ls <;> rfl

lemma length_sourceLines (start : Nat) (ls : List Bytes) : (sourceLines start ls).length = ls.length := by
  induction ls generalizing start with
  | nil => rfl
  | cons l ls ih => rw [sourceLines, List.length_cons, List.length_cons, ih]

lemma length_later_front : (front number start ls).later.length = ls.length - 1 := by
  cases ls <;> simp [front, length_sourceLines]

lemma span_front_covers (number : Nat) {source : Bytes} (h : source.drop start = Bytes.unlines (l :: ls)) :
    (front number start (l :: ls)).span.Covers source (l ++ [Bytes.newline]) := by
  refine ⟨rfl, ?_, ?_⟩
  · simp [span, front]
  · simp only [span, front, Nat.add_zero, h, Bytes.unlines_cons]
    exact ⟨Bytes.unlines ls, by simp⟩

def within (number start : Nat) (l : Bytes) (ls : List Bytes) (n : Nat) : LineCursor :=
  { front number start (l :: ls) with taken := n }

lemma sameLine_within (n : Nat) : (front number start (l :: ls)).SameLine (within number start l ls n) :=
  ⟨rfl, rfl, rfl⟩

lemma advance_within {n m : Nat} (h : n + m ≤ l.length) :
    (within number start l ls n).advance m = within number start l ls (n + m) :=
  advance_eq rfl (by simp [within, front]; omega)

lemma advancePadded_within {n m : Nat} (h : n + m ≤ l.length) :
    (within number start l ls n).advancePadded m 0 = within number start l ls (n + m) := by
  rw [advancePadded, advance_within h]
  rfl

lemma front_eq_within : front number start (l :: ls) = within number start l ls 0 := rfl

lemma span_within_covers {source a t : Bytes} (h : source.drop start = Bytes.unlines (l :: ls))
    (hl : l = a ++ t) :
    (within number start l ls a.length).span.Covers source (t ++ [Bytes.newline]) := by
  have hc := span_front_covers number h
  rw [show l ++ [Bytes.newline] = a ++ (t ++ [Bytes.newline]) by rw [hl, List.append_assoc]] at hc
  exact hc.behind

end LineCursor

end MarkdownTidy
