import MarkdownTidy.Proofs.Document.Markers

/-! Marks that are legible are read as what they are. -/

namespace MarkdownTidy

/-- What is left of lines that stand one behind the other in the source: the rest of a line from an offset on, and the
lines behind it. -/
inductive Sheet (source : Bytes) : Nat → Bytes → List TextLine → Prop
  | last {start : Nat} {x : Bytes} (h : Bytes.newline ∉ x) : Sheet source start x []
  | more {start : Nat} {x : Bytes} {l : TextLine} {ls : List TextLine} (h : Bytes.newline ∉ x)
      (hl : l.span.start = start + (x.length + 1)) (hp : l.span.padding = 0)
      (hb : l.before = (source.take (start + (x.length + 1))).reverse) (hne : l.text ≠ [])
      (hs : Sheet source (start + (x.length + 1)) l.text ls) : Sheet source start (x ++ [Bytes.newline]) (l :: ls)

namespace Sheet

variable {source : Bytes} {start : Nat} {b : UInt8} {rest x : Bytes} {ls : List TextLine}

lemma isLine (h : Sheet source start rest ls) : IsLine rest (ls.flatMap (·.text)) := by
  cases h with
  | last h => exact .inl ⟨rfl, h⟩
  | more h => exact .inr ⟨_, rfl, h⟩

lemma tail (h : Sheet source start (b :: x) ls) (hb : b ≠ Bytes.newline) :
    Sheet source (start + 1) x ls ∧ (x ≠ [] ∨ ls = []) := by
  generalize hr : b :: x = rest at h
  cases h with
  | last h =>
    rw [← hr, List.mem_cons, not_or] at h
    exact ⟨.last h.2, .inr rfl⟩
  | @more _ t l ls h hl hp hbefore hne hs =>
    cases t with
    | nil => exact absurd (List.cons.inj hr).1 hb
    | cons c t =>
      obtain ⟨rfl, rfl⟩ := List.cons.inj hr
      have hlen : start + ((b :: t).length + 1) = start + 1 + (t.length + 1) := by
        rw [List.length_cons]
        omega
      rw [hlen] at hl hbefore hs
      rw [List.mem_cons, not_or] at h
      exact ⟨.more h.2 hl hp hbefore hne hs, .inl (by simp)⟩

lemma eq_nil (h : Sheet source start [] ls) : ls = [] := by
  generalize hr : ([] : Bytes) = rest at h
  cases h with
  | last => rfl
  | more => simp at hr

end Sheet

/-- A cursor behind the text `w`, which is all of the source that stands before it. -/
structure TextCursor.Margin (source w : Bytes) (c : TextCursor) : Prop where
  padding : c.padding = 0
  pos : c.pos = w.length
  seen : c.seen = w.reverse
  sheet : Sheet source c.pos c.rest c.later
  isPrefix : w ++ (c.rest ++ c.later.flatMap (·.text)) <+: source

namespace TextCursor.Margin

variable {source w x y : Bytes} {c : TextCursor} {b : UInt8}

lemma line_eq (h : c.Margin source w) : c.line = c.rest := by
  rw [TextCursor.line, TextCursor.peek?, h.padding]
  split
  · rename_i hend
    simp only [TextCursor.atEnd, Bool.and_eq_true, List.isEmpty_iff] at hend
    exact hend.1.symm
  · rfl

lemma prefix_drop (h : c.Margin source w) : c.rest ++ c.later.flatMap (·.text) <+: source.drop c.pos := by
  obtain ⟨r, hr⟩ := h.isPrefix
  rw [h.pos, ← hr, List.append_assoc, List.drop_left]
  exact List.prefix_append _ _

lemma exists_rest (h : c.Margin source w) (hw : b :: y = c.rest ++ c.later.flatMap (·.text)) : ∃ x, c.rest = b :: x := by
  cases hr : c.rest with
  | nil =>
    have hsheet := h.sheet
    rw [hr] at hsheet
    rw [hr, hsheet.eq_nil] at hw
    cases hw
  | cons d x =>
    rw [hr] at hw
    rw [(List.cons.inj hw).1]
    exact ⟨x, rfl⟩

lemma step (h : c.Margin source w) (hr : c.rest = b :: x) (hb : b ≠ Bytes.newline) :
    c.step.Margin source (w ++ [b]) ∧ c.step.rest = x ∧ c.step.later = c.later := by
  have hsheet := h.sheet
  rw [hr] at hsheet
  obtain ⟨hrest, hlater⟩ := hsheet.tail hb
  have hstep := Plain.step_eq h.padding hr hlater
  rw [hstep]
  refine ⟨⟨h.padding, ?_, ?_, hrest, ?_⟩, rfl, rfl⟩
  · simp [h.pos]
  · simp [h.seen]
  · have hpre := h.isPrefix
    rw [hr] at hpre
    simpa using hpre

lemma advance (h : c.Margin source w) (hr : c.rest = y ++ x) (hy : Bytes.newline ∉ y) :
    (c.advance y.length).Margin source (w ++ y) ∧ (c.advance y.length).rest = x ∧
      (c.advance y.length).later = c.later := by
  induction y generalizing c w with
  | nil => exact ⟨by simpa [TextCursor.advance] using h, hr, rfl⟩
  | cons b y ih =>
    rw [List.mem_cons, not_or] at hy
    obtain ⟨hstep, hrest, hlater⟩ := h.step hr (Ne.symm hy.1)
    obtain ⟨hadvance, hrest', hlater'⟩ := ih hstep hrest hy.2
    rw [List.append_assoc, List.singleton_append] at hadvance
    exact ⟨hadvance, hrest', hlater'.trans hlater⟩

lemma nextLine {t : Bytes} (h : c.Margin source w) (hr : c.rest = t ++ [Bytes.newline]) :
    c.nextLine.Margin source (w ++ c.rest) ∧ c.nextLine.atEnd = false ∧
      c.nextLine.rest ++ c.nextLine.later.flatMap (·.text) = c.later.flatMap (·.text) := by
  have hsheet := h.sheet
  have hpre := h.isPrefix
  generalize hrest : c.rest = rest at hsheet hpre hr
  generalize hlater : c.later = later at hsheet hpre
  cases hsheet with
  | last hn => exact absurd (hr ▸ by simp) hn
  | @more _ x l ls hx hl hp hbefore hne hs =>
    have hnext : c.nextLine = .atLine (c.index + 1) l ls := by rw [TextCursor.nextLine, hlater]
    have hw : w.length + (x.length + 1) = (w ++ (x ++ [Bytes.newline])).length := by simp
    have htake : source.take (w.length + (x.length + 1)) = w ++ (x ++ [Bytes.newline]) := by
      have hline : w ++ (x ++ [Bytes.newline]) <+: source := by
        refine List.IsPrefix.trans ?_ hpre
        rw [← List.append_assoc w (x ++ [Bytes.newline])]
        exact List.prefix_append _ _
      rw [hw]
      exact (List.prefix_iff_eq_take.mp hline).symm
    rw [hnext]
    rw [h.pos] at hl hbefore hs
    refine ⟨⟨hp, hl.trans hw, ?_, ?_, ?_⟩, ?_, rfl⟩
    · rw [TextCursor.atLine, hbefore, htake]
    · simpa only [TextCursor.atLine, hl] using hs
    · simpa [TextCursor.atLine] using hpre
    · simp [TextCursor.atEnd, TextCursor.atLine, hne]

lemma scan_eq (h : c.Margin source w) (hr : c.rest = b :: x) (hb : b ≠ Bytes.newline) (before start : Nat) :
    Delimiter.scan c.rest before start = Delimiter.scan (c.rest ++ c.later.flatMap (·.text)) before start := by
  rcases h.sheet.isLine with ⟨hnil, -⟩ | ⟨t, ht, -⟩
  · rw [hnil, List.append_nil]
  · cases t with
    | nil =>
      rw [ht] at hr
      exact absurd (List.cons.inj hr).1.symm hb
    | cons d t =>
      obtain rfl : d = b := by
        rw [ht] at hr
        exact (List.cons.inj hr).1
      rw [ht, List.append_assoc, List.singleton_append]
      exact (Delimiter.scan_line hb t _).symm

lemma scan_preceding {lead : Bytes} {f : Span} (h : c.Margin source w) (hf : f.start = lead.length)
    (hspace : ∀ b ∈ lead.getLast?, b = byte ' ') (hlead : lead <+: w) (line : Bytes) (start : Nat) :
    Delimiter.scan line (c.preceding (some f)) start = Delimiter.scan line (charBehind w) start := by
  obtain ⟨t, rfl⟩ := hlead
  rw [TextCursor.preceding, h.padding, hf, h.pos, h.seen, charBehind]
  by_cases ht : t = []
  · subst ht
    rw [List.append_nil]
    rcases lead.eq_nil_or_concat' with rfl | ⟨y, b, rfl⟩
    · cases c.index == 0 <;> rfl
    · obtain rfl := hspace b (by simp)
      have hbehind : Utf8.precedingOfReversed (y ++ [byte ' ']).reverse = 32 := by
        rw [List.reverse_append]
        rfl
      have hscan : Delimiter.scan line 10 start = Delimiter.scan line 32 start := rfl
      simp only [hbehind]
      cases c.index == 0
      · simp
      · simpa using hscan
  · have hpos : ¬ lead.length + t.length ≤ lead.length := by
      have hlen := List.length_pos_iff.mpr ht
      omega
    simp [hpos, ht]

end TextCursor.Margin

/-! ### Reading -/

namespace Inline

open Piece

structure Lead (scope : InlineScope) (lead : Bytes) : Prop where
  first : ∃ f, scope.lines.head?.map (·.span) = some f ∧ f.start = lead.length
  space : ∀ b ∈ lead.getLast?, b = byte ' '

/-- Reading stands behind the text `w` and in front of the marks `ms`: the pieces read so far say `ts`, and `z` was
passed over since. -/
structure Standing (source : Bytes) (m : InlineMemory) (open_ : List Delimiter) (ts : List Token) (w z : Bytes)
    (ms : List Mark) (r : Reading) : Prop where
  woven : Woven source open_ r.state.pieces ts
  noBracket : r.state.open_ = []
  memory : r.state.memory = m
  cursor : r.cursor.Margin source w
  pending : Span.Covers source ⟨r.start, r.cursor.pos, 0⟩ z
  apart : ¬ BrokenAt r.state.pieces r.start
  ahead : Mark.written ms = r.cursor.rest ++ r.cursor.later.flatMap (·.text)
  left : r.left = (Mark.front ms).length + if Mark.ending ms = .soft then 1 else 0
  ending : r.ending = Mark.ending ms
  fresh : r.fresh = true → z = []
  isSuffix : z <:+ w

variable {source lead w z x : Bytes} {m : InlineMemory} {open_ : List Delimiter} {ts : List Token}
  {ms ms' : List Mark} {r : Reading} {b : UInt8} {scope : InlineScope} {d : Delimiter}

lemma run_delimiter (hg : scope.grammar = Plain.grammar) (hline : r.cursor.line = b :: x) (hleft : 0 < r.left)
    (hescaped : r.escaped = false) (hb : b ∈ utf8 "*_")
    (hscan : Delimiter.scan (b :: x) (r.cursor.preceding (scope.lines.head?.map (·.span))) r.cursor.pos = some d)
    (fuel : Nat) :
    Reading.run scope (fuel + 1) r =
      if (r.cursor.advance d.written).atEnd then (Plain.takenUp r).state.push (.delimiter d)
      else Reading.run scope fuel
        (.begin ((Plain.takenUp r).state.push (.delimiter d)) (r.cursor.advance d.written) false) := by
  obtain ⟨n, hn⟩ : ∃ n, r.left = n + 1 := ⟨r.left - 1, by omega⟩
  have hmark : Bytes.isPunct b = true ∧ Bytes.isSpace b = false ∧ (b == Bytes.newline) = false ∧
      Plain.grammar.inlineRulesFor b = [.emphasis] := by
    rw [show utf8 "*_" = [byte '*', byte '_'] from rfl] at hb
    have hcases : b = byte '*' ∨ b = byte '_' := by simpa using hb
    rcases hcases with rfl | rfl <;> exact ⟨rfl, rfl, rfl, rfl⟩
  obtain ⟨hpunct, hspace, hnewline, hrules⟩ := hmark
  rw [Reading.run]
  simp only [hn, hline, hnewline, hpunct, hspace, hescaped, hg, hrules, firstOf, attempt, delimiter, hscan,
    Bool.not_true, Bool.not_false, Bool.and_self, Bool.true_or, Bool.or_self, Bool.false_eq_true,
    Bool.false_and, if_true, if_false, List.isEmpty_cons]
  rfl

lemma run_nextLine (h : r.left = 0 ∨ r.cursor.line = [] ∨ ∃ x, r.cursor.line = Bytes.newline :: x)
    (hescaped : r.escaped = false) (fuel : Nat) :
    Reading.run scope (fuel + 1) r =
      if r.cursor.nextLine.atEnd then r.finishLine scope.source
      else Reading.run scope fuel (.begin (r.finishLine scope.source) r.cursor.nextLine false) := by
  rw [← hescaped, Reading.run]
  rcases h with h | h | ⟨x, h⟩
  · rw [h]
    rfl
  · rw [h]
    cases r.left <;> rfl
  · rw [h]
    cases r.left <;> rfl

namespace Standing

lemma exists_rest (h : Standing source m open_ ts w z (.byte b :: ms) r) : ∃ x, r.cursor.rest = b :: x :=
  h.cursor.exists_rest h.ahead

lemma skipByte (h : Standing source m open_ ts w z (.byte b :: ms) r) (hb : b ≠ Bytes.newline) :
    Standing source m open_ ts (w ++ [b]) (z ++ [b]) ms (r.skipByte b) := by
  obtain ⟨x, hx⟩ := h.exists_rest
  obtain ⟨hcursor, hrest, hlater⟩ := h.cursor.step hx hb
  have hahead := h.ahead
  rw [hx, Mark.written_cons] at hahead
  have hprefix : [b] <+: source.drop r.cursor.pos := by
    refine List.IsPrefix.trans ?_ h.cursor.prefix_drop
    rw [hx]
    exact ⟨_, rfl⟩
  have hpos : r.cursor.step.pos = r.cursor.pos + [b].length := by
    rw [hcursor.pos, h.cursor.pos, List.length_append]
  refine ⟨h.woven, h.noBracket, h.memory, hcursor, ?_, h.apart, ?_, ?_, h.ending,
    (fun hf => nomatch hf), ?_⟩
  · have hcovers := h.pending.append hprefix
    rw [← hpos] at hcovers
    exact hcovers
  · change Mark.written ms = r.cursor.step.rest ++ r.cursor.step.later.flatMap (·.text)
    rw [hrest, hlater]
    exact (List.cons.inj hahead).2
  · have hleft : r.left = (b :: Mark.front ms).length + if Mark.ending ms = .soft then 1 else 0 := h.left
    rw [List.length_cons] at hleft
    change r.left - 1 = _
    omega
  · obtain ⟨v, hv⟩ := h.isSuffix
    exact ⟨v, by rw [← hv, List.append_assoc]⟩

lemma takenUp (h : Standing source m open_ ts w z ms r) :
    Standing source m open_ (ts ++ z.map .byte) w [] ms (Plain.takenUp r) := by
  rw [Plain.takenUp]
  cases hf : r.fresh with
  | true =>
    obtain rfl := h.fresh hf
    rw [List.map_nil, List.append_nil]
    exact ⟨h.woven, h.noBracket, h.memory, h.cursor, h.pending, h.apart, h.ahead, h.left, h.ending, fun _ => rfl,
      List.nil_suffix⟩
  | false =>
    have hle : r.start ≤ r.cursor.pos := by
      have hstop : r.cursor.pos = r.start + z.length := h.pending.stop
      omega
    have hwoven := h.woven.addText (s := ⟨r.start, r.cursor.pos, 0⟩) hle rfl h.apart
    rw [h.pending.value_eq] at hwoven
    have hapart := not_brokenAt_addText (s := ⟨r.start, r.cursor.pos, 0⟩) h.apart r.cursor.pos
    exact ⟨hwoven, h.noBracket, h.memory, h.cursor, ⟨rfl, rfl, List.nil_prefix⟩, hapart, h.ahead, h.left, h.ending,
      fun _ => rfl, List.nil_suffix⟩

lemma skip (h : Standing source m open_ ts w z (.byte b :: ms) r) (hg : scope.grammar = Plain.grammar)
    (hm : m.footnotes = []) (hn : b ≠ Bytes.newline)
    (hb : b ∈ Plain.markup → b = byte '\\' ∨ r.escaped = true ∧ r.fresh = false)
    (hx : b = byte '!' → (Mark.written ms).head? ≠ some (byte '[')) (fuel : Nat) :
    ∃ r' ts' z', Reading.run scope (fuel + 1) r = Reading.run scope fuel r' ∧
      Standing source m open_ ts' (w ++ [b]) z' ms r' ∧ ts' ++ z'.map .byte = ts ++ (z.map .byte ++ [.byte b]) ∧
      r'.fresh = false ∧ r'.escaped = (!r.escaped && b == byte '\\') := by
  obtain ⟨x, hrest⟩ := h.exists_rest
  have hahead := h.ahead
  rw [hrest, Mark.written_cons] at hahead
  have hhead : b = byte '!' → x.head? ≠ some (byte '[') := by
    intro he hh
    obtain ⟨x, rfl⟩ := List.head?_eq_some_iff.mp hh
    have htail : Mark.written ms = byte '[' :: (x ++ r.cursor.later.flatMap (·.text)) := (List.cons.inj hahead).2
    exact hx he (by rw [htail]; rfl)
  have hleft : 0 < r.left := by
    have hleft : r.left = (b :: Mark.front ms).length + if Mark.ending ms = .soft then 1 else 0 := h.left
    rw [hleft, List.length_cons]
    omega
  rcases Plain.run_skips hg (h.cursor.line_eq.trans hrest) hleft hn hb hhead h.noBracket (by rw [h.memory, hm]) fuel
    with hrun | ⟨⟨-, hplain⟩, hrun⟩
  · exact ⟨_, ts, z ++ [b], hrun, h.skipByte hn, by simp, rfl, rfl⟩
  · have hslash : (b == byte '\\') = false := by
      rw [beq_eq_false_iff_ne]
      rintro rfl
      exact hplain (by decide)
    refine ⟨_, _, _, hrun, h.takenUp.skipByte hn, by simp, rfl, ?_⟩
    rw [hslash, Bool.and_false, Reading.skipByte, hslash, Bool.and_false]

lemma begin {s : InlineState} {c : TextCursor} (hw : Woven source open_ s.pieces ts) (ho : s.open_ = [])
    (hm : s.memory = m) (hc : c.Margin source w) (hb : ¬ BrokenAt s.pieces c.pos)
    (ha : Mark.written ms = c.rest ++ c.later.flatMap (·.text)) (hf : Legible.Front w ms) :
    Standing source m open_ ts w [] ms (.begin s c false) := by
  rw [Reading.begin, hc.line_eq, hf.ending_eq ha hc.sheet.isLine]
  exact ⟨hw, ho, hm, hc, ⟨rfl, rfl, List.nil_prefix⟩, hb, ha, rfl, rfl, fun _ => rfl, List.nil_suffix⟩

lemma delimiter (open_' : List Delimiter) (ts' : List Token) (h : Standing source m open_ ts w z ms' r)
    (hms : Mark.written ms' = d.marker ++ Mark.written ms)
    (hfront : Mark.front ms' = d.marker ++ Mark.front ms)
    (hd : Delimiter.scan (d.marker ++ Mark.written ms) (charBehind w) w.length = some d) (hmark : d.mark ∈ utf8 "*_")
    (hescaped : r.escaped = false) (hg : scope.grammar = Plain.grammar)
    (hlead : Lead scope lead) (hw : lead <+: w) (hf : Legible.Front (w ++ d.marker) ms)
    (hnext : (Piece.delimiter d).Sound source → d.length = d.written → d.span.value source = d.marker →
      ∀ ps, Woven source open_ ps (ts ++ z.map .byte) → Woven source open_' (.delimiter d :: ps) ts') (fuel : Nat) :
    (Mark.written ms = [] ∧ ∃ ps, Woven source open_' ps ts' ∧ Reading.run scope (fuel + 1) r = ⟨ps, [], m⟩) ∨
      ∃ r', Standing source m open_' ts' (w ++ d.marker) [] ms r' ∧ r'.escaped = false ∧
        Reading.run scope (fuel + 1) r = Reading.run scope fuel r' := by
  have hfound := Delimiter.found_of_scan hd
  obtain ⟨t, hcons⟩ := hfound.exists_marker
  have hplain := Delimiter.plain_of_marker hmark
  have hnewline : d.mark ≠ Bytes.newline := (hplain d.mark (by rw [hcons]; exact List.mem_cons_self)).1
  have hahead := h.ahead
  rw [hms] at hahead
  obtain ⟨x, hx⟩ := h.cursor.exists_rest (b := d.mark) (y := t ++ Mark.written ms) (by rw [← hahead, hcons]; rfl)
  -- The run stands on this line as a whole.
  have hscan := hd
  rw [hahead, ← h.cursor.scan_eq hx hnewline] at hscan
  obtain ⟨y, hy⟩ := (Delimiter.found_of_scan hscan).isPrefix
  obtain ⟨hcursor, hrest, hlater⟩ := h.cursor.advance (x := y) hy.symm (fun hn => (hplain _ hn).1 rfl)
  rw [show d.marker.length = d.written from List.length_replicate] at hcursor hrest hlater
  have hleft : 0 < r.left := by
    rw [h.left, hfront, hcons, List.cons_append, List.length_cons]
    omega
  obtain ⟨f, hspan, hstart⟩ := hlead.first
  have hrun := run_delimiter (x := x) hg (h.cursor.line_eq.trans hx) hleft hescaped hmark
    (by rw [hspan, h.cursor.scan_preceding hstart hlead.space hw, ← hx, h.cursor.pos]; exact hscan) fuel
  have hsound : (Piece.delimiter d).Sound source := by
    refine .delimiter ?_ ?_ ?_
    · rw [hfound.span]
      exact Nat.le_add_right _ _
    · rw [hfound.span]
    · obtain ⟨v, hv⟩ := h.cursor.prefix_drop
      rw [hfound.span, ← h.cursor.pos, ← hv, hx]
      simpa using (hplain d.mark (by rw [hcons]; exact List.mem_cons_self)).2.1
  have htaken := h.takenUp
  have hvalue : Span.Covers source d.span d.marker := by
    rw [hfound.span, ← h.cursor.pos]
    refine ⟨rfl, by rw [show d.marker.length = d.written from List.length_replicate], ?_⟩
    exact List.IsPrefix.trans ⟨y, hy⟩ ((List.prefix_append _ _).trans h.cursor.prefix_drop)
  have hwoven := hnext hsound hfound.length hvalue.value_eq _ htaken.woven
  have hms' : Mark.written ms = (r.cursor.advance d.written).rest ++ (r.cursor.advance d.written).later.flatMap (·.text) := by
    rw [hrest, hlater]
    rw [← hy, List.append_assoc] at hahead
    exact List.append_cancel_left hahead
  rw [hrun]
  split
  · rename_i hend
    simp only [TextCursor.atEnd, Bool.and_eq_true, List.isEmpty_iff] at hend
    refine .inl ⟨by rw [hms', hend.1, hend.2]; rfl, _, hwoven, ?_⟩
    rw [InlineState.push, htaken.noBracket, htaken.memory]
  · refine .inr ⟨_, begin (s := (Plain.takenUp r).state.push (.delimiter d)) hwoven htaken.noBracket htaken.memory hcursor ?_ hms' hf, rfl, rfl⟩
    rintro ⟨_, _, _, he, -⟩
    cases he

lemma covers_trimRight (h : Standing source m open_ ts w z ms r) (hw : ∀ b ∈ w.getLast?, Bytes.isSpace b = false) :
    (Span.trimRight ⟨r.start, r.cursor.pos, 0⟩ source).Covers source z := by
  have hpending := h.pending
  rcases z.eq_nil_or_concat' with rfl | ⟨z', b, rfl⟩
  · rw [Span.trimRight, hpending.slice_eq]
    exact ⟨rfl, rfl, List.nil_prefix⟩
  · have hlast : ∀ c ∈ (z' ++ [b]).getLast?, Bytes.isSpace c = false := by
      obtain ⟨v, hv⟩ := h.isSuffix
      intro c hc
      refine hw c ?_
      rw [← hv, List.getLast?_append, hc]
      rfl
    exact @Span.Covers.trimRight source (z' ++ [b]) [] ⟨r.start, r.cursor.pos, 0⟩ (by simpa using hpending) (by simp) hlast
      (by simp)

lemma finishLine (h : Standing source m open_ ts w z ms r) (hf : Legible.Front w ms) (hfront : Mark.front ms = [])
    (hb : Mark.ending ms = .backslash → (source.drop r.cursor.pos).head? = some (byte '\\')) :
    ∃ span, (r.finishLine source) =
        ⟨.node (.leaf (.text span (Mark.ending ms == .soft) (Mark.ending ms == .backslash) false) []) :: r.state.pieces, [], m⟩ ∧
      span.stop ≤ r.cursor.pos ∧
      Woven source open_ (r.finishLine source).pieces
        (ts ++ (z.map .byte ++ Token.lineBreak (Mark.ending ms == .soft) (Mark.ending ms == .backslash))) := by
  have hlast := hf.last
  rw [hfront, List.append_nil] at hlast
  obtain ⟨span, hspan, hcovers, hstart⟩ : ∃ span : Span, span = (if Mark.ending ms == .backslash then
      (⟨r.start, r.cursor.pos, 0⟩ : Span) else Span.trimRight ⟨r.start, r.cursor.pos, 0⟩ source) ∧
      span.Covers source z ∧ span.start = r.start := by
    refine ⟨_, rfl, ?_⟩
    split
    · exact ⟨h.pending, rfl⟩
    · refine ⟨h.covers_trimRight fun b hb => (hlast b hb).1, ?_⟩
      rw [Span.trimRight]
      split <;> rfl
  have hfinish : r.finishLine source =
      ⟨.node (.leaf (.text span (Mark.ending ms == .soft) (Mark.ending ms == .backslash) false) []) :: r.state.pieces, [], m⟩ := by
    obtain ⟨-, -, hhard, -⟩ := Mark.exists_written ms
    have hbreak : (Mark.ending ms == .hard) = false := by simpa using hhard
    rw [Reading.finishLine, h.ending, hspan, hbreak, Bool.false_or, InlineState.pushNode, InlineState.push, h.noBracket,
      h.memory]
  have hstop : span.stop ≤ r.cursor.pos := by
    have hs := hcovers.stop
    have hp : r.cursor.pos = r.start + z.length := h.pending.stop
    omega
  refine ⟨span, hfinish, hstop, ?_⟩
  have hsound : (Piece.node (.leaf (.text span (Mark.ending ms == .soft) (Mark.ending ms == .backslash) false) [])).Sound
      source := by
    refine .text ?_ fun hslash => ?_
    · rw [hcovers.stop]
      exact Nat.le_add_right _ _
    · rw [hspan, if_pos hslash]
      exact hb (by simpa using hslash)
  have hwoven := h.woven.node hsound
  rw [Node.outline_text, hcovers.value_eq] at hwoven
  rw [hfinish]
  exact hwoven

/-- Reading goes on behind the end of a line. -/
lemma lineBreak {k : Mark} (hk : k = .soft ∨ k = .hard) (h : Standing source m open_ ts w z (k :: ms) r)
    (hf : Legible.Front w (k :: ms)) (hnext : Legible.Front (w ++ k.bytes) ms) (hescaped : r.escaped = false)
    (hsource : scope.source = source) (fuel : Nat) :
    ∃ r', Standing source m open_ (ts ++ z.map .byte ++ [k.token]) (w ++ k.bytes) [] ms r' ∧ r'.escaped = false ∧
      Reading.run scope (fuel + 1) r = Reading.run scope fuel r' := by
  have hfront : Mark.front (k :: ms) = [] := by rcases hk with rfl | rfl <;> rfl
  have hrest : r.cursor.rest = k.bytes := by
    rw [hf.rest_eq h.ahead h.cursor.sheet.isLine, hfront]
    rcases hk with rfl | rfl <;> rfl
  obtain ⟨t, ht⟩ : ∃ t, k.bytes = t ++ [Bytes.newline] := by
    rcases hk with rfl | rfl
    · exact ⟨[], rfl⟩
    · exact ⟨[byte '\\'], rfl⟩
  have hahead := h.ahead
  rw [hrest, Mark.written_cons] at hahead
  obtain ⟨hcursor, hend, hlater⟩ := h.cursor.nextLine (hrest.trans ht)
  rw [hrest] at hcursor
  have hslash : Mark.ending (k :: ms) = .backslash → (source.drop r.cursor.pos).head? = some (byte '\\') := by
    obtain ⟨v, hv⟩ := h.cursor.prefix_drop
    rw [← hv, hrest]
    rcases hk with rfl | rfl
    · rintro ⟨⟩
    · exact fun _ => rfl
  obtain ⟨span, hfinish, hstop, hwoven⟩ := h.finishLine hf hfront hslash
  -- A hard line break ends in front of its backslash, so the next line does not begin where it ends.
  have hapart : ¬ BrokenAt (r.finishLine source).pieces r.cursor.nextLine.pos := by
    have hpos : r.cursor.nextLine.pos = r.cursor.pos + k.bytes.length := by
      rw [hcursor.pos, h.cursor.pos, List.length_append]
    have hlen : 0 < k.bytes.length := by
      rw [ht]
      simp
    rw [hfinish]
    rintro ⟨span', _, _, he, hbroken⟩
    have hnode := (List.cons.inj he).1
    simp only [Node.leaf, Piece.node.injEq, Node.mk.injEq, Info.mk.injEq, Kind.text.injEq] at hnode
    rw [← hnode.1.1.1] at hbroken
    omega
  have htokens : Token.lineBreak (Mark.ending (k :: ms) == .soft) (Mark.ending (k :: ms) == .backslash) = [k.token] := by
    rcases hk with rfl | rfl <;> rfl
  rw [htokens, ← List.append_assoc] at hwoven
  refine ⟨_, begin hwoven (by rw [hfinish]) (by rw [hfinish]) hcursor hapart
    (by rw [hlater]; exact List.append_cancel_left hahead) hnext, rfl, ?_⟩
  have hline : r.left = 0 ∨ r.cursor.line = [] ∨ ∃ x, r.cursor.line = Bytes.newline :: x := by
    rcases hk with rfl | rfl
    · exact .inr (.inr ⟨[], h.cursor.line_eq.trans hrest⟩)
    · exact .inl h.left
  rw [run_nextLine hline hescaped, hend, if_neg Bool.false_ne_true, hsource]

lemma run_behind (open_' : List Delimiter) (ts' : List Token) (h : Standing source m open_ ts w z ms' r)
    (hms : Mark.written ms' = d.marker ++ Mark.written ms)
    (hfront : Mark.front ms' = d.marker ++ Mark.front ms)
    (hd : Delimiter.scan (d.marker ++ Mark.written ms) (charBehind w) w.length = some d) (hmark : d.mark ∈ utf8 "*_")
    (hescaped : r.escaped = false) (hg : scope.grammar = Plain.grammar)
    (hlead : Lead scope lead) (hw : lead <+: w) (hl : Legible (open_'.map Delimiter.marker) (w ++ d.marker) ms)
    (hnext : (Piece.delimiter d).Sound source → d.length = d.written → d.span.value source = d.marker →
      ∀ ps, Woven source open_ ps (ts ++ z.map .byte) → Woven source open_' (.delimiter d :: ps) ts') {fuel : Nat}
    (hread : ∀ {r' : Reading}, Standing source m open_' ts' (w ++ d.marker) [] ms r' → r'.escaped = false →
      ∃ ps, Reading.run scope fuel r' = ⟨ps, [], m⟩ ∧ Woven source [] ps (ts' ++ ms.map Mark.token)) :
    ∃ ps, Reading.run scope (fuel + 1) r = ⟨ps, [], m⟩ ∧ Woven source [] ps (ts' ++ ms.map Mark.token) := by
  rcases h.delimiter open_' ts' hms hfront hd hmark hescaped hg hlead hw hl.isFront hnext fuel with
    ⟨hnil, ps, hwoven, hrun⟩ | ⟨r', hr', hescaped', hrun⟩
  · obtain ⟨rfl, hopen, -⟩ := hl.eq_nil hnil
    obtain rfl := List.map_eq_nil_iff.mp hopen
    exact ⟨ps, hrun, by simpa using hwoven⟩
  · obtain ⟨ps, hps, hwoven⟩ := hread hr' hescaped'
    exact ⟨ps, hrun.trans hps, hwoven⟩

lemma run_end (h : Standing source m [] ts w z [] r) (hf : Legible.Front w []) (hescaped : r.escaped = false)
    (hsource : scope.source = source) (fuel : Nat) :
    ∃ ps, Reading.run scope (fuel + 1) r = ⟨ps, [], m⟩ ∧ Woven source [] ps (ts ++ (z.map .byte ++ [])) := by
  obtain ⟨hrest, -⟩ := List.append_eq_nil_iff.mp h.ahead.symm
  have hlater : r.cursor.later = [] := by
    have hsheet := h.cursor.sheet
    rw [hrest] at hsheet
    exact hsheet.eq_nil
  have hend : r.cursor.nextLine.atEnd = true := by
    rw [TextCursor.nextLine, hlater]
    rfl
  obtain ⟨span, hfinish, -, hwoven⟩ := h.finishLine hf rfl (by rintro ⟨⟩)
  rw [run_nextLine (.inl h.left) hescaped, if_pos hend, hsource]
  rw [hfinish] at hwoven ⊢
  exact ⟨_, rfl, hwoven⟩

/-- Legible marks are read as what they are. -/
lemma run (h : Standing source m open_ ts w z ms r) (hl : Legible (open_.map Delimiter.marker) w ms)
    (hescaped : r.escaped = false) (hg : scope.grammar = Plain.grammar) (hsource : scope.source = source)
    (hm : m.footnotes = []) (hlead : Lead scope lead) (hbehind : lead <+: w) (fuel : Nat)
    (hfuel : (Mark.written ms).length < fuel) :
    ∃ ps, Reading.run scope fuel r = ⟨ps, [], m⟩ ∧
      Woven source [] ps (ts ++ (z.map .byte ++ ms.map Mark.token)) := by
  generalize hopen : open_.map Delimiter.marker = markers at hl
  induction hl generalizing open_ ts z r fuel with
  | nil hw =>
    obtain rfl := List.map_eq_nil_iff.mp hopen
    obtain ⟨fuel, rfl⟩ : ∃ k, fuel = k + 1 := ⟨fuel - 1, by omega⟩
    exact h.run_end (Legible.nil hw).isFront hescaped hsource fuel
  | @byte _ _ b ms hb hn hl ih =>
    obtain ⟨fuel, rfl⟩ : ∃ k, fuel = k + 1 := ⟨fuel - 1, by omega⟩
    obtain ⟨r', ts', z', hrun, hr', hts, -, hescaped'⟩ := h.skip hg hm hn (fun hmem => absurd hmem hb)
      (fun _ => hl.head_ne_bracket) fuel
    have hslash : (b == byte '\\') = false := by
      rw [beq_eq_false_iff_ne]
      rintro rfl
      exact hb (by decide)
    rw [hslash, Bool.and_false] at hescaped'
    obtain ⟨ps, hread, hwoven⟩ := ih hr' hescaped' (hbehind.trans (List.prefix_append _ _)) fuel (by simpa [Mark.written_cons, Mark.bytes] using hfuel) hopen
    rw [← List.append_assoc, hts] at hwoven
    exact ⟨ps, hrun.trans hread, by simpa [Mark.token] using hwoven⟩
  | @escaped _ _ b ms hn hl ih =>
    obtain ⟨fuel, rfl⟩ : ∃ k, fuel = k + 2 := ⟨fuel - 2, by simp [Mark.written_cons, Mark.bytes] at hfuel; omega⟩
    obtain ⟨r₁, ts₁, z₁, hrun₁, hr₁, hts₁, hfresh₁, hescaped₁⟩ := h.skip hg hm (by decide) (fun _ => .inl rfl)
      (fun he => absurd he (by decide)) (fuel + 1)
    rw [hescaped, beq_self_eq_true] at hescaped₁
    obtain ⟨r₂, ts₂, z₂, hrun₂, hr₂, hts₂, -, hescaped₂⟩ := hr₁.skip hg hm hn (fun _ => .inr ⟨hescaped₁, hfresh₁⟩)
      (fun _ => hl.head_ne_bracket) fuel
    rw [hescaped₁] at hescaped₂
    rw [List.append_assoc] at hr₂
    obtain ⟨ps, hread, hwoven⟩ := ih hr₂ hescaped₂ (hbehind.trans (List.prefix_append _ _)) fuel (by simpa [Mark.written_cons, Mark.bytes] using hfuel) hopen
    rw [← List.append_assoc, hts₂, ← List.append_assoc ts₁, hts₁] at hwoven
    exact ⟨ps, hrun₁.trans (hrun₂.trans hread), by simpa [Mark.token] using hwoven⟩
  | @idle _ _ d ms hd hmark ho hc hl ih =>
    subst hopen
    have hpos := (Delimiter.found_of_scan hd).pos
    rw [Mark.written_append, Mark.written_bytes, List.length_append, Delimiter.marker, List.length_replicate] at hfuel
    obtain ⟨fuel, rfl⟩ : ∃ k, fuel = k + 1 := ⟨fuel - 1, by omega⟩
    obtain ⟨ps, hrun, hwoven⟩ := h.run_behind open_ (ts ++ z.map .byte ++ d.marker.map .byte)
      (by rw [Mark.written_append, Mark.written_bytes]) (Mark.front_bytes _ _) hd hmark hescaped hg hlead hbehind hl
      (fun hsound _ hvalue ps hps => by rw [← hvalue]; exact hps.idle hsound ho hc)
      fun hr' hescaped' => ih hr' hescaped' (hbehind.trans (List.prefix_append _ _)) fuel (by omega) rfl
    refine ⟨ps, hrun, ?_⟩
    rw [List.map_append, Mark.map_token_bytes]
    simpa using hwoven
  | @opening _ _ d ms hd hmark ho hc hl ih =>
    subst hopen
    have hpos := (Delimiter.found_of_scan hd).pos
    rw [Mark.written_cons, List.length_append, Mark.bytes, Delimiter.marker, List.length_replicate] at hfuel
    obtain ⟨fuel, rfl⟩ : ∃ k, fuel = k + 1 := ⟨fuel - 1, by omega⟩
    have hapart : d.canClose = true → ∀ e ∈ open_, e.marker ≠ d.marker :=
      fun hclose e he heq => hc hclose (heq ▸ List.mem_map_of_mem he)
    obtain ⟨ps, hrun, hwoven⟩ := h.run_behind (d :: open_) (ts ++ z.map .byte ++ [.enter d.written]) rfl rfl hd
      (Delimiter.mark_of_marker hmark).1 hescaped hg hlead hbehind hl
      (fun hsound hlen _ ps hps => hps.opening (Delimiter.isMarker hsound hlen hmark) ho hapart)
      fun hr' hescaped' => ih hr' hescaped' (hbehind.trans (List.prefix_append _ _)) fuel (by omega) rfl
    refine ⟨ps, hrun, ?_⟩
    simpa [Mark.token, show d.marker.length = d.written from List.length_replicate] using hwoven
  | @closing _ _ d ms hd hmark hc hl ih =>
    have hpos := (Delimiter.found_of_scan hd).pos
    rw [Mark.written_cons, List.length_append, Mark.bytes, Delimiter.marker, List.length_replicate] at hfuel
    obtain ⟨fuel, rfl⟩ : ∃ k, fuel = k + 1 := ⟨fuel - 1, by omega⟩
    obtain ⟨e, open_, rfl, he, rfl⟩ := List.map_eq_cons_iff.mp hopen
    obtain ⟨ps, hrun, hwoven⟩ := h.run_behind open_ (ts ++ z.map .byte ++ [.leave]) rfl rfl hd
      (Delimiter.mark_of_marker hmark).1 hescaped hg hlead hbehind hl
      (fun hsound hlen _ ps hps => hps.closing (Delimiter.isMarker hsound hlen hmark) hc he)
      fun hr' hescaped' => ih hr' hescaped' (hbehind.trans (List.prefix_append _ _)) fuel (by omega) rfl
    exact ⟨ps, hrun, by simpa [Mark.token] using hwoven⟩
  | @soft _ w ms hw hs hl ih =>
    obtain ⟨fuel, rfl⟩ : ∃ k, fuel = k + 1 := ⟨fuel - 1, by omega⟩
    obtain ⟨r', hr', hescaped', hrun⟩ :=
      h.lineBreak (.inl rfl) (Legible.soft hw hs hl).isFront hl.isFront hescaped hsource fuel
    obtain ⟨ps, hread, hwoven⟩ := ih hr' hescaped' (hbehind.trans (List.prefix_append _ _)) fuel (by simpa [Mark.written_cons, Mark.bytes] using hfuel) hopen
    exact ⟨ps, hrun.trans hread, by simpa [Mark.token] using hwoven⟩
  | @hard _ w ms hw hs hl ih =>
    obtain ⟨fuel, rfl⟩ : ∃ k, fuel = k + 1 := ⟨fuel - 1, by omega⟩
    obtain ⟨r', hr', hescaped', hrun⟩ :=
      h.lineBreak (.inr rfl) (Legible.hard hw hs hl).isFront hl.isFront hescaped hsource fuel
    obtain ⟨ps, hread, hwoven⟩ := ih hr' hescaped' (hbehind.trans (List.prefix_append _ _)) fuel (by simp [Mark.written_cons, Mark.bytes] at hfuel; omega) hopen
    exact ⟨ps, hrun.trans hread, by simpa [Mark.token] using hwoven⟩

end Standing

end Inline

end MarkdownTidy
