import MarkdownTidy.Document.Inline.Parse
import MarkdownTidy.Proofs.Plain.HeadingLine
import MarkdownTidy.Writer.Visitor
import Mathlib.Algebra.GroupWithZero.Nat

/-! The text of a plain block is read as nothing but text. -/

namespace MarkdownTidy.Plain

open Inline

/-! ### Pieces of text -/

/-- Nodes of text that are written as a text. -/
inductive Texts (source : Bytes) : List Node → Bytes → Prop
  | nil : Texts source [] []
  | concat {ns : List Node} {x : Bytes} {span : Span} (h : Texts source ns x)
      (hs : span.start ≤ span.stop) (soft : Bool) :
      Texts source (ns ++ [.leaf (.text span soft false false) []])
        (x ++ Writer.text source span soft false)

structure Collects (source : Bytes) (m : InlineMemory) (s : InlineState) (y : Bytes) : Prop where
  pieces : ∃ ns, Texts source ns y ∧ s.pieces = (ns.map Piece.node).reverse
  open_ : s.open_ = []
  memory : s.memory = m

variable {source : Bytes} {m : InlineMemory} {s : InlineState} {y z : Bytes}

lemma Collects.pushNode (h : Collects source m s y) {span : Span} (hs : span.start ≤ span.stop) (soft : Bool) :
    Collects source m (s.pushNode (.leaf (.text span soft false false) []))
      (y ++ Writer.text source span soft false) := by
  obtain ⟨⟨ns, hn, hp⟩, ho, hm⟩ := h
  refine ⟨⟨_, hn.concat hs soft, ?_⟩, ho, hm⟩
  simp [InlineState.pushNode, InlineState.push, hp]

lemma slice_append_slice {a b c : Nat} (hab : a ≤ b) (hbc : b ≤ c) :
    Bytes.slice source a b ++ Bytes.slice source b c = Bytes.slice source a c := by
  have hd : source.drop b = (source.drop a).drop (b - a) := by
    rw [List.drop_drop]
    congr 1
    omega
  have hc : c - a = (b - a) + (c - b) := by omega
  rw [Bytes.slice, Bytes.slice, Bytes.slice, hd, hc, List.take_add]

lemma text_eq_value (span : Span) : Writer.text source span false false = span.value source := rfl

lemma Collects.pushText (h : Collects source m s y) {span : Span} (hz : span.Covers source z) :
    Collects source m (s.pushText span) (y ++ z) := by
  obtain ⟨⟨ns, hn, hp⟩, ho, hm⟩ := h
  have hle : span.start ≤ span.stop := by rw [hz.stop]; omega
  refine ⟨?_, ho, hm⟩
  have hnew := hn.concat hle false
  rw [text_eq_value, hz.value_eq] at hnew
  cases hn with
  | nil => exact ⟨_, hnew, by rw [InlineState.pushText, hp]; rfl⟩
  | @concat ns x last hn hs soft =>
    rw [InlineState.pushText, hp, List.map_append, List.reverse_append]
    by_cases he : last.stop = span.start ∧ soft = false
    · obtain ⟨hstop, rfl⟩ := he
      -- The last text is made longer.
      have hlong : Writer.text source { last with stop := span.stop } false false =
          Writer.text source last false false ++ z := by
        have hv : z = Bytes.slice source last.stop span.stop := by rw [hstop, hz.slice_eq]
        rw [text_eq_value, text_eq_value, hv, Span.value, Span.value, List.append_assoc,
          slice_append_slice hs (by omega)]
      have hl : last.start ≤ span.stop := by omega
      refine ⟨ns ++ [.leaf (.text { last with stop := span.stop } false false false) []], ?_, ?_⟩
      · rw [List.append_assoc, ← hlong]
        exact hn.concat hl false
      · simp [Piece.addText, extendText?, Node.kind, Node.info, Node.leaf, Node.withKind, Node.children, hstop]
    · refine ⟨_, hnew, ?_⟩
      have he' : (last.stop == span.start && !soft) = false := by
        rw [Bool.eq_false_iff]
        simpa using he
      simp [Piece.addText, extendText?, Node.kind, Node.info, Node.leaf, Node.ofText, he']

/-! ### Bytes of text -/

lemma grammar_inline : grammar.inline =
    [.taskCheckBox, .codeSpan, .footnote, .link, .autoLink, .rawHtml, .emphasis, .strikethrough] := rfl

lemma inlineRulesFor_cases {b : UInt8} (hb : b ∉ markup) :
    grammar.inlineRulesFor b = [] ∨ (b = byte '!' ∧ grammar.inlineRulesFor b = [.footnote, .link]) ∨
      (b = byte ']' ∧ grammar.inlineRulesFor b = [.link]) := by
  by_cases he : b = byte '!'
  · subst he
    exact .inr (.inl ⟨rfl, rfl⟩)
  by_cases hc : b = byte ']'
  · subst hc
    exact .inr (.inr ⟨rfl, rfl⟩)
  refine .inl (List.filter_eq_nil_iff.mpr ?_)
  have hs : ∀ u : Bytes, (u.all fun c => markup.contains c || c == byte '!' || c == byte ']') = true → b ∉ u := by
    intro u hu hm
    have h := List.all_eq_true.mp hu b hm
    simp only [Bool.or_eq_true, List.contains_iff_mem, beq_iff_eq] at h
    exact h.elim (fun h => h.elim hb he) hc
  intro r hr
  rw [List.contains_iff_mem]
  simp only [grammar_inline, List.mem_cons, List.not_mem_nil, or_false] at hr
  rcases hr with rfl | rfl | rfl | rfl | rfl | rfl | rfl | rfl <;> exact hs _ rfl

variable {scope : InlineScope} {c : TextCursor}

lemma footnote?_eq_none (h : s.memory.footnotes = []) : footnote? scope s c = none := by
  have hi : ∀ label, footnoteIndex? s.memory label = none := by
    intro label
    rw [footnoteIndex?, h]
    rfl
  simp only [footnote?, hi]
  generalize (if c.line.head? == some (byte '!') then 2 else 1) = n
  split
  · rfl
  · split <;> rfl

lemma attempt_footnote (h : s.memory.footnotes = []) : attempt scope s c .footnote = .refused s := by
  rw [attempt, footnote?_eq_none h]

lemma attempt_link {b : UInt8} {x : Bytes} (hc : c.line = b :: x) (hb : b = byte '!' ∨ b = byte ']')
    (hx : b = byte '!' → x.head? ≠ some (byte '[')) (ho : s.open_ = []) : attempt scope s c .link = .refused s := by
  rw [attempt, link, hc]
  dsimp only
  rcases hb with rfl | rfl
  · rw [if_pos (by decide), if_neg (by simpa using hx rfl)]
  · rw [if_neg (by decide), if_neg (by decide), closeBracket, ho]

lemma firstOf_refused (scope : InlineScope) {b : UInt8} {x : Bytes} (hb : b ∉ markup) (hc : c.line = b :: x)
    (hx : b = byte '!' → x.head? ≠ some (byte '[')) (ho : s.open_ = []) (hf : s.memory.footnotes = []) (atOnce : Bool) :
    ∃ flag, Inline.firstOf scope c atOnce s (grammar.inlineRulesFor b) = (.refused s, flag) := by
  rcases inlineRulesFor_cases hb with h | ⟨he, h⟩ | ⟨he, h⟩
  · rw [h]
    exact ⟨_, rfl⟩
  · rw [h]
    simp only [Inline.firstOf, attempt_footnote hf, attempt_link hc (.inl he) hx ho]
    exact ⟨_, rfl⟩
  · rw [h]
    simp only [Inline.firstOf, attempt_link hc (.inr he) hx ho]
    exact ⟨_, rfl⟩

def takenUp (r : Reading) : Reading :=
  { r with
    state := if r.fresh then r.state else r.state.pushText ⟨r.start, r.cursor.pos, 0⟩
    start := if r.fresh then r.start else r.cursor.pos
    escaped := false }

lemma run_skips {r : Reading} {b : UInt8} {x : Bytes} (hg : scope.grammar = grammar) (hline : r.cursor.line = b :: x)
    (hleft : 0 < r.left) (hn : b ≠ Bytes.newline)
    (hb : b ∈ markup → b = byte '\\' ∨ r.escaped = true ∧ r.fresh = false)
    (hx : b = byte '!' → x.head? ≠ some (byte '[')) (ho : r.state.open_ = []) (hf : r.state.memory.footnotes = []) (fuel : Nat) :
    Reading.run scope (fuel + 1) r = Reading.run scope fuel (r.skipByte b) ∨
      (b ≠ byte ' ' ∧ b ∉ markup) ∧
        Reading.run scope (fuel + 1) r = Reading.run scope fuel ((takenUp r).skipByte b) := by
  obtain ⟨n, hn'⟩ : ∃ n, r.left = n + 1 := ⟨r.left - 1, by omega⟩
  rw [Reading.run]
  simp only [hn', hline]
  rw [if_neg (by simpa using hn)]
  generalize hrules : (if Bytes.isPunct b && !r.escaped || Bytes.isSpace b || r.fresh then
      scope.grammar.inlineRulesFor (if Bytes.isSpace b || !Bytes.isPunct b then byte ' ' else b) else []) = rules
  split
  · exact .inl rfl
  · rename_i hne
    have hmarkup : b ∉ markup ∧ rules = grammar.inlineRulesFor b := by
      rw [List.isEmpty_iff] at hne
      rw [hg] at hrules
      split at hrules
      · rename_i htried
        split at hrules
        · exact absurd hrules.symm hne
        · rename_i hpunct
          refine ⟨fun hmem => ?_, hrules.symm⟩
          rcases hb hmem with rfl | ⟨hescaped, hfresh⟩
          · exact absurd hrules.symm hne
          · simp only [hescaped, hfresh, Bool.not_true, Bool.and_false, Bool.false_or, Bool.or_false] at htried
            exact hpunct (by simp [htried])
      · exact absurd hrules.symm hne
    obtain ⟨hb, rfl⟩ := hmarkup
    refine .inr ⟨⟨?_, hb⟩, ?_⟩
    · rintro rfl
      exact hne rfl
    · obtain ⟨flag, hrefused⟩ := firstOf_refused (s := (takenUp r).state) scope hb hline hx
        (by rw [takenUp]; dsimp only; split <;> exact ho) (by rw [takenUp]; dsimp only; split <;> exact hf) true
      rw [takenUp] at hrefused
      rw [hrefused, ← hn']
      rfl

/-- Reading stands inside a line: `y` is taken up, `z` was passed since, and `x` is left. -/
structure Reads (source : Bytes) (m : InlineMemory) (r : Reading) (y z x : Bytes) : Prop where
  state : Collects source m r.state y
  pending : Span.Covers source ⟨r.start, r.cursor.pos, 0⟩ z
  padding : r.cursor.padding = 0
  rest : r.cursor.rest = x
  isPrefix : x <+: source.drop r.cursor.pos
  left : r.left = x.length
  fresh : r.fresh = true → z = []
  escaped : r.escaped = false

lemma line_eq {c : TextCursor} {b : UInt8} {x : Bytes} (hp : c.padding = 0) (hr : c.rest = b :: x) :
    c.line = b :: x := by
  simp [TextCursor.line, TextCursor.peek?, TextCursor.atEnd, hp, hr, Bytes.spaces]

lemma step_eq {c : TextCursor} {b : UInt8} {x : Bytes} (hp : c.padding = 0) (hr : c.rest = b :: x)
    (hx : x ≠ [] ∨ c.later = []) : c.step = { c with pos := c.pos + 1, seen := b :: c.seen, rest := x } := by
  rw [TextCursor.step, if_neg (by omega), hr]
  cases x with
  | nil => simp [hx.resolve_left (by simp)]
  | cons b' x => rfl

variable {r : Reading} {b : UInt8} {x : Bytes}

lemma Reads.skipByte (h : Reads source m r y z (b :: x)) (hb : b ≠ byte '\\')
    (hx : x ≠ [] ∨ r.cursor.later = []) : Reads source m (r.skipByte b) y (z ++ [b]) x := by
  have hstep := step_eq h.padding h.rest hx
  have hcur : (r.skipByte b).cursor = { r.cursor with pos := r.cursor.pos + 1, seen := b :: r.cursor.seen, rest := x } := hstep
  obtain ⟨t, ht⟩ := h.isPrefix
  refine ⟨h.state, ?_, ?_, ?_, ?_, ?_, ?_, ?_⟩
  · rw [hcur]
    have hb : [b] <+: source.drop r.cursor.pos := ⟨x ++ t, ht⟩
    exact h.pending.append hb
  · rw [hcur]
    exact h.padding
  · rw [hcur]
  · rw [hcur]
    exact ⟨t, by rw [← List.drop_drop, ← ht]; rfl⟩
  · have hl := h.left
    rw [List.length_cons] at hl
    change r.left - 1 = x.length
    omega
  · exact fun hf => nomatch hf
  · change (!r.escaped && b == byte '\\') = false
    simp [hb]

lemma Reads.takeUp (h : Reads source m r y z x) : Reads source m (takenUp r) (y ++ z) [] x := by
  rw [takenUp]
  cases hf : r.fresh with
  | true =>
    obtain rfl := h.fresh hf
    rw [List.append_nil]
    exact ⟨h.state, h.pending, h.padding, h.rest, h.isPrefix, h.left, fun _ => rfl, rfl⟩
  | false =>
    refine ⟨h.state.pushText h.pending, ⟨rfl, rfl, List.nil_prefix⟩, h.padding, h.rest, h.isPrefix, h.left,
      fun _ => rfl, rfl⟩

variable (hg : scope.grammar = grammar) (hm : m.footnotes = [])
include hg hm

lemma run_byte (h : Reads source m r y z (b :: x)) (hb : b ∉ markup) (hn : b ≠ Bytes.newline)
    (hbr : byte '[' ∉ x) (hx : x ≠ [] ∨ r.cursor.later = []) (fuel : Nat) :
    ∃ r' y' z', Reading.run scope (fuel + 1) r = Reading.run scope fuel r' ∧
      Reads source m r' y' (z' ++ [b]) x ∧ y' ++ z' = y ++ z ∧ (b = byte ' ' → y' = y) ∧
      r'.ending = r.ending ∧ r'.cursor.later = r.cursor.later := by
  have hline := line_eq h.padding h.rest
  have hesc : b ≠ byte '\\' := by
    rintro rfl
    exact hb (by decide)
  have hlater : r.cursor.step.later = r.cursor.later := by rw [step_eq h.padding h.rest hx]
  have hleft : 0 < r.left := by
    rw [h.left]
    exact Nat.succ_pos _
  rcases run_skips (x := x) hg hline hleft hn (fun hmem => absurd hmem hb) (fun _ hh => hbr (List.mem_of_head? hh))
    h.state.open_ (by rw [h.state.memory, hm]) fuel with hrun | ⟨⟨hspace, -⟩, hrun⟩
  · exact ⟨_, y, z, hrun, h.skipByte hesc hx, rfl, fun _ => rfl, rfl, hlater⟩
  · exact ⟨_, y ++ z, [], hrun, h.takeUp.skipByte hesc hx, by simp, fun he => absurd he hspace, rfl, hlater⟩

lemma run_text {q w : Bytes} (h : Reads source m r y z (q ++ w))
    (hq : ∀ b ∈ q, b ∉ markup ∧ b ≠ Bytes.newline) (hw : byte '[' ∉ w) (hx : w ≠ [] ∨ r.cursor.later = [])
    (fuel : Nat) :
    ∃ r' y' z', Reading.run scope (fuel + q.length) r = Reading.run scope fuel r' ∧
      Reads source m r' y' z' w ∧ y' ++ z' = y ++ (z ++ q) ∧ z'.getLast? = (z ++ q).getLast? ∧
      r'.ending = r.ending ∧ r'.cursor.later = r.cursor.later := by
  induction q generalizing r y z with
  | nil => exact ⟨r, y, z, rfl, h, by simp, by simp, rfl, rfl⟩
  | cons b q ih =>
    rw [List.forall_mem_cons] at hq
    have hbr : byte '[' ∉ q ++ w := by
      intro hm
      rcases List.mem_append.mp hm with hm | hm
      · exact (hq.2 _ hm).1 (by decide)
      · exact hw hm
    have hne : q ++ w ≠ [] ∨ r.cursor.later = [] := hx.imp_left fun h => by simp [h]
    obtain ⟨r₁, y₁, z₁, he₁, h₁, hyz₁, -, hend₁, hlat₁⟩ := run_byte hg hm h hq.1.1 hq.1.2 hbr hne (fuel + q.length)
    obtain ⟨r₂, y₂, z₂, he₂, h₂, hyz₂, hlast₂, hend₂, hlat₂⟩ := ih h₁ hq.2 (hlat₁ ▸ hx)
    refine ⟨r₂, y₂, z₂, he₁.trans he₂, h₂, ?_, ?_, hend₂.trans hend₁, hlat₂.trans hlat₁⟩
    · rw [hyz₂, ← List.append_assoc, ← List.append_assoc, hyz₁]
      simp
    · rw [hlast₂, List.append_assoc, List.singleton_append, List.getLast?_append_of_ne_nil _ (by simp),
        List.getLast?_append_of_ne_nil _ (by simp)]

omit hg hm

/-! ### Ends of lines -/

lemma run_end {w : Bytes} (h : Reads source m r y z w) (hw : w = [] ∨ w = [Bytes.newline]) (fuel : Nat) :
    Reading.run scope (fuel + 1) r =
      if r.cursor.nextLine.atEnd then r.finishLine scope.source
      else Reading.run scope fuel (.begin (r.finishLine scope.source) r.cursor.nextLine false) := by
  rw [← h.escaped, Reading.run, h.left]
  rcases hw with rfl | rfl
  · rfl
  · rw [line_eq h.padding h.rest]
    rfl

section

variable (hg : scope.grammar = grammar) (hm : m.footnotes = [])
include hg hm

end

end MarkdownTidy.Plain
