import MarkdownTidy.Document.Inline.Parse
import MarkdownTidy.Document.Opening
import MarkdownTidy.Proofs.Document.Spans
import MarkdownTidy.Proofs.Shortcode.RoundTrip

/-! Where reading goes on after a shortcode inside a paragraph. The text it is searched in has the
indentation of later lines put back, so that its offsets are no offsets of the source. -/

namespace MarkdownTidy

/-- Lines of a paragraph: unpadded stretches of the source, each but the last with its line end. -/
structure ParagraphLines (source : Bytes) (spans : List Span) : Prop where
  unpadded : ∀ s ∈ spans, s.padding = 0
  inside : ∀ s ∈ spans, s.start ≤ s.stop ∧ s.stop ≤ source.length
  ended : ∀ s ∈ spans.dropLast,
    (Bytes.slice source s.start s.stop).getLast? = some Bytes.newline

/-- The position on line `index` of a paragraph at the source offset `pos`, with the rest of that line
and all later lines to be read. -/
def TextCursor.onLine (source : Bytes) (spans : List Span) (index pos : Nat) : TextCursor where
  index := index
  pos := pos
  padding := 0
  seen := (source.take pos).reverse
  rest := Bytes.slice source pos (spans[index]?.elim 0 (·.stop))
  later := textLines source (spans.drop (index + 1))

/-! ### Stretches of the source -/

lemma covers_slice {source : Bytes} {a b : Nat} (hab : a ≤ b) (hb : b ≤ source.length) :
    Span.Covers source ⟨a, b, 0⟩ (Bytes.slice source a b) := by
  refine ⟨rfl, ?_, List.take_prefix _ _⟩
  simp only [Bytes.slice, List.length_take, List.length_drop]
  omega

lemma getLast?_slice {source : Bytes} {a b : Nat} (hab : a < b) (hb : b ≤ source.length) :
    (Bytes.slice source a b).getLast? = source[b - 1]? := by
  rw [Bytes.slice, List.getLast?_eq_getElem?, List.length_take, List.length_drop,
    List.getElem?_take_of_lt (by omega), List.getElem?_drop]
  congr 1
  omega

lemma Opening.tokenize_eq_append {s : ShortcodeSource} {m : MarkdownAttributes} {text : Bytes} {n : Nat}
    {sc : Shortcode} (h : (Opening.tokenize s m text).1 = some (n, sc)) :
    s.reader.closing ≠ [] ∧ ∃ u t, text = u ++ s.reader.closing ++ t ∧
      n = (u ++ s.reader.closing).length := by
  have hread : (s.reader.tokenize? (s.own.getD m) text).1 = some (n, sc) := by
    rw [← h, Opening.tokenize]
    cases s.own <;> rfl
  exact Shortcode.tokenize?_eq_append hread

namespace Inline

lemma indentation_suffix (l : TextLine) : indentation l <:+ l.before.reverse := by
  have hblanks : (l.before.takeWhile fun b => b == byte ' ' || b == byte '\t').reverse <:+
      l.before.reverse := List.reverse_suffix.mpr (List.takeWhile_prefix _)
  rw [indentation]
  split
  · exact hblanks
  · split
    · exact hblanks
    · exact List.nil_suffix

lemma covers_indented {source : Bytes} {s : Span} (h : s.start ≤ s.stop ∧ s.stop ≤ source.length) :
    let l : TextLine := ⟨s, Bytes.slice source s.start s.stop, (source.take s.start).reverse⟩
    Span.Covers source ⟨s.start - (indentation l).length, s.stop, 0⟩ (indentation l ++ l.text) := by
  intro l
  obtain ⟨front, hfront⟩ := indentation_suffix l
  have htext := covers_slice h.1 h.2
  have htake : front ++ indentation l = source.take s.start := by
    rw [hfront, List.reverse_reverse]
  have hlen : front.length + (indentation l).length = s.start := by
    have hl := congrArg List.length htake
    rw [List.length_append, List.length_take] at hl
    omega
  have hsource : source = front ++ (indentation l ++ source.drop s.start) := by
    rw [← List.append_assoc, htake, List.take_append_drop]
  refine ⟨rfl, ?_, ?_⟩
  · rw [List.length_append, ← Nat.add_assoc, ← hlen, Nat.add_sub_cancel, hlen]
    exact htext.stop
  · have hdrop : source.drop (s.start - (indentation l).length) =
        indentation l ++ source.drop s.start := by
      rw [← hlen, Nat.add_sub_cancel]
      conv_lhs => rw [hsource, List.drop_left]
      rw [hlen]
    rw [hdrop]
    exact (List.prefix_append_right_inj _).mpr htext.isPrefix

/-! ### Collected lines -/

structure Collected.From (source : Bytes) (spans : List Span) (l : Collected) : Prop where
  covers : Span.Covers source ⟨l.start, l.stop, 0⟩ l.text
  stop : ∃ s, spans[l.index]? = some s ∧ l.stop = s.stop
  later : l.later = textLines source (spans.drop (l.index + 1))

def Stacked (offset : Nat) : List Collected → Prop
  | [] => True
  | l :: ls => l.offset = offset ∧ Stacked (offset + l.text.length) ls

lemma stacked_collectLater (index offset : Nat) (ls : List TextLine) :
    Stacked offset (collectLater index offset ls) := by
  induction ls generalizing index offset with
  | nil => trivial
  | cons l ls ih => exact ⟨rfl, ih _ _⟩

lemma stacked_collect (c : TextCursor) : Stacked 0 (collect c) := by
  refine ⟨rfl, ?_⟩
  rw [Nat.zero_add]
  exact stacked_collectLater _ _ _

lemma Stacked.le_offset {offset : Nat} {ls : List Collected} (h : Stacked offset ls) :
    ∀ l ∈ ls, offset ≤ l.offset := by
  induction ls generalizing offset with
  | nil => simp
  | cons k ls ih =>
    rintro l (_ | ⟨_, hl⟩)
    · exact h.1.ge
    · exact (Nat.le_add_right _ _).trans (ih h.2 l hl)

lemma Stacked.offset_eq {offset : Nat} {pre post : List Collected} {l : Collected}
    (h : Stacked offset (pre ++ l :: post)) :
    l.offset = offset + (pre.flatMap (·.text)).length ∧
      ∀ k ∈ post, l.offset + l.text.length ≤ k.offset := by
  induction pre generalizing offset with
  | nil =>
    obtain ⟨ho, hpost⟩ := h
    exact ⟨ho, ho ▸ hpost.le_offset⟩
  | cons k pre ih =>
    obtain ⟨ho, hpost⟩ := ih h.2
    refine ⟨?_, hpost⟩
    rw [ho, List.flatMap_cons, List.length_append, Nat.add_assoc]

lemma Stacked.find?_eq {pre post : List Collected} {l : Collected} {n : Nat}
    (h : Stacked 0 (pre ++ l :: post)) (hn : l.offset ≤ n)
    (hpost : post ≠ [] → n < l.offset + l.text.length) :
    (pre ++ l :: post).reverse.find? (·.offset ≤ n) = some l := by
  have hnone : post.reverse.find? (·.offset ≤ n) = none := by
    rw [List.find?_eq_none]
    intro k hk
    have hle := h.offset_eq.2 k (List.mem_reverse.mp hk)
    have hlt := hpost (by rintro rfl; simp at hk)
    simp only [decide_eq_true_eq]
    omega
  simp [List.find?_append, hnone, hn]

variable {source : Bytes} {spans : List Span}

lemma from_collectLater (hp : ParagraphLines source spans) (index offset : Nat) {k : Nat}
    {l : Collected}
    (h : (collectLater index offset (textLines source (spans.drop index)))[k]? = some l) :
    l.index = index + k ∧ l.From source spans := by
  induction k generalizing index offset with
  | zero =>
    cases hd : spans.drop index with
    | nil => simp [hd, textLines, collectLater] at h
    | cons s rest =>
      have hs : spans[index]? = some s := by
        rw [← List.head?_drop, hd, List.head?_cons]
      have hrest : rest = spans.drop (index + 1) := by
        rw [← List.tail_drop, hd, List.tail_cons]
      rw [hd, textLines, List.map_cons, collectLater, List.getElem?_cons_zero] at h
      obtain rfl := (Option.some.inj h).symm
      refine ⟨rfl, covers_indented (hp.inside s (List.mem_of_getElem? hs)), ⟨s, hs, rfl⟩, ?_⟩
      rw [← hrest]
      rfl
  | succ k ih =>
    cases hd : spans.drop index with
    | nil => simp [hd, textLines, collectLater] at h
    | cons s rest =>
      have hrest : rest = spans.drop (index + 1) := by
        rw [← List.tail_drop, hd, List.tail_cons]
      rw [hd, textLines, List.map_cons, collectLater, List.getElem?_cons_succ, hrest] at h
      obtain ⟨hi, hfrom⟩ := ih _ _ h
      exact ⟨by omega, hfrom⟩

lemma Collected.From.ended {l : Collected} (h : l.From source spans) (hp : ParagraphLines source spans)
    (hi : l.index + 1 < spans.length) : ∀ b ∈ l.text.getLast?, b = Bytes.newline := by
  obtain ⟨s, hs, hstop⟩ := h.stop
  have hin := hp.inside s (List.mem_of_getElem? hs)
  have hend : source[s.stop - 1]? = some Bytes.newline := by
    have hmem : s ∈ spans.dropLast := by
      rw [List.mem_iff_getElem?]
      exact ⟨l.index, by rw [List.getElem?_dropLast, if_pos (by omega), hs]⟩
    have hlast := hp.ended s hmem
    rcases hin.1.eq_or_lt with he | hlt
    · simp [he, Bytes.slice] at hlast
    · rwa [getLast?_slice hlt hin.2] at hlast
  intro b hb
  have hlen := h.covers.stop
  simp only at hlen
  rcases l.text.eq_nil_or_concat' with htext | ⟨t, b', htext⟩
  · simp [htext] at hb
  · rw [htext, List.length_append, List.length_singleton] at hlen
    rw [← h.covers.slice_eq, getLast?_slice (by simp only; omega) (by simp only; omega), hstop,
      hend] at hb
    exact (Option.some.inj hb).symm

variable {i pos : Nat} {span : Span}

lemma from_collect (hp : ParagraphLines source spans) (hspan : spans[i]? = some span)
    (hpos : pos ≤ span.stop) {k : Nat} {l : Collected}
    (h : (collect (.onLine source spans i pos))[k]? = some l) :
    l.index = i + k ∧ l.From source spans := by
  cases k with
  | zero =>
    have hrest : (TextCursor.onLine source spans i pos).rest = Bytes.slice source pos span.stop := by
      simp [TextCursor.onLine, hspan]
    have hcovers := covers_slice hpos (hp.inside span (List.mem_of_getElem? hspan)).2
    rw [collect, List.getElem?_cons_zero, hrest] at h
    obtain rfl := (Option.some.inj h).symm
    exact ⟨rfl, ⟨rfl, rfl, hcovers.isPrefix⟩, ⟨span, hspan, hcovers.stop.symm⟩, rfl⟩
  | succ k =>
    obtain ⟨hi, hfrom⟩ := from_collectLater hp (i + 1) _ h
    exact ⟨by omega, hfrom⟩

lemma exists_collected {closing u t : Bytes} (hp : ParagraphLines source spans)
    (hspan : spans[i]? = some span) (hpos : pos ≤ span.stop) (hne : closing ≠ [])
    (hclosing : Bytes.newline ∉ closing)
    (h : (collect (.onLine source spans i pos)).flatMap (·.text) = u ++ (closing ++ t)) :
    ∃ pre l post x y, collect (.onLine source spans i pos) = pre ++ l :: post ∧
      l.index = i + pre.length ∧ l.From source spans ∧ l.text = x ++ (closing ++ y) ∧
      u = pre.flatMap (·.text) ++ x ∧ (post ≠ [] → y ≠ []) := by
  have hended : ∀ t ∈ ((collect (.onLine source spans i pos)).map (·.text)).dropLast,
      ∀ b ∈ t.getLast?, b = Bytes.newline := by
    intro t ht
    rw [← List.map_dropLast] at ht
    obtain ⟨l, hl, rfl⟩ := List.mem_map.mp ht
    obtain ⟨k, hk⟩ := List.mem_iff_getElem?.mp hl
    rw [List.getElem?_dropLast] at hk
    split at hk
    · rename_i hlt
      obtain ⟨hi, hfrom⟩ := from_collect hp hspan hpos hk
      refine hfrom.ended hp ?_
      -- There is a line after this one, and it comes from the paragraph.
      obtain ⟨l', hl'⟩ : ∃ l', (collect (.onLine source spans i pos))[k + 1]? = some l' :=
        ⟨_, List.getElem?_eq_getElem (by omega)⟩
      obtain ⟨hi', hfrom'⟩ := from_collect hp hspan hpos hl'
      obtain ⟨s, hs, -⟩ := hfrom'.stop
      have hlt' := (List.getElem?_eq_some_iff.mp hs).1
      omega
    · cases hk
  rw [List.flatMap_def] at h
  obtain ⟨pre', t', post', x, y, hlines, ht', rfl, hy⟩ :=
    Bytes.exists_line_of_flatten hne hclosing hended h
  obtain ⟨pre, rest, hsplit, rfl, hrest⟩ := List.map_eq_append_iff.mp hlines
  obtain ⟨l, post, rfl, rfl, rfl⟩ := List.map_eq_cons_iff.mp hrest
  have hk : (collect (.onLine source spans i pos))[pre.length]? = some l := by
    rw [hsplit, List.getElem?_append_right le_rfl, Nat.sub_self, List.getElem?_cons_zero]
  obtain ⟨hi, hfrom⟩ := from_collect hp hspan hpos hk
  exact ⟨pre, l, post, x, y, hsplit, hi, hfrom, ht', by rw [List.flatMap_def],
    fun hne => hy (by simpa using hne)⟩

lemma shortcode?_eq (scope : InlineScope) (s : ShortcodeSource) (names : MarkdownAttributes)
    {c : TextCursor} (h : s.reader.opening <+: c.line) :
    shortcode? scope s names c =
      ((Opening.tokenize s names ((collect c).flatMap (·.text))).1.map
          fun (n, sc) => (sc, positionIn scope.source (collect c) n c),
        (Opening.tokenize s names ((collect c).flatMap (·.text))).2) := by
  rw [shortcode?, List.isPrefixOf_iff_prefix.mpr h]
  rfl

lemma positionIn_eq {c : TextCursor} {pre post : List Collected} {l : Collected} {x y : Bytes}
    (hsplit : collect c = pre ++ l :: post) (hfrom : l.From source spans) (htext : l.text = x ++ y)
    (hpost : post ≠ [] → y ≠ []) :
    positionIn source (collect c) ((pre.flatMap (·.text)).length + x.length) c =
      .onLine source spans l.index (l.start + x.length) := by
  have hstacked := stacked_collect c
  rw [hsplit] at hstacked
  have hoffset : l.offset = (pre.flatMap (·.text)).length := by
    simpa using hstacked.offset_eq.1
  have hfind := hstacked.find?_eq (n := l.offset + x.length) (Nat.le_add_right _ _) fun hne => by
    have hy := List.length_pos_iff.mpr (hpost hne)
    rw [htext, List.length_append]
    omega
  obtain ⟨line, hline, hstop⟩ := hfrom.stop
  rw [← hoffset, positionIn, hsplit, hfind]
  simp only [TextCursor.onLine, Nat.add_sub_cancel_left, hfrom.later, hstop, hline, Option.elim_some]

/-- An attempt at a shortcode from a position of a paragraph either refuses, or takes the shortcode that
the rest of the text begins with and goes on right after its closing delimiter: on the line that holds
the delimiter, with the rest of that line and all later lines to be read. -/
theorem attempt_shortcode_position (hp : ParagraphLines source spans) {scope : InlineScope}
    (hscope : scope.source = source) (state : InlineState) (s : ShortcodeSource)
    (hclosing : Bytes.newline ∉ s.reader.closing) (hspan : spans[i]? = some span)
    (hpos : pos ≤ span.stop)
    (hopening : s.reader.opening <+: (TextCursor.onLine source spans i pos).line) :
    let c := TextCursor.onLine source spans i pos
    let lines := (collect c).map (·.text)
    let found := Opening.tokenize s state.memory.names lines.flatten
    let after : InlineState := { state with memory := { state.memory with names := found.2 } }
    found.1 = none ∧ attempt scope state c (.shortcode s) = .refused after ∨
      ∃ n sc k stop line, found.1 = some (n, sc) ∧
        attempt scope state c (.shortcode s) =
          .applied (after.pushNode (.leaf (.shortcode sc) []))
            (.onLine source spans (i + k) stop) ∧
        (lines.take k).flatten.length + s.reader.closing.length ≤ n ∧
        n ≤ (lines.take (k + 1)).flatten.length ∧
        spans[i + k]? = some line ∧ stop ≤ line.stop ∧ s.reader.closing.length ≤ stop ∧
        Bytes.slice source (stop - s.reader.closing.length) stop = s.reader.closing := by
  intro c lines found after
  have hfound : found = Opening.tokenize s state.memory.names ((collect c).flatMap (·.text)) := by
    rw [List.flatMap_def]
  have hattempt := shortcode?_eq scope s state.memory.names hopening
  rw [← hfound, hscope] at hattempt
  cases hf : found.1 with
  | none =>
    refine Or.inl ⟨rfl, ?_⟩
    rw [attempt, hattempt, hf]
    rfl
  | some r =>
    obtain ⟨n, sc⟩ := r
    refine Or.inr ?_
    obtain ⟨hne, u, t, hvalue, hn⟩ := Opening.tokenize_eq_append hf
    rw [List.append_assoc, ← List.flatMap_def] at hvalue
    obtain ⟨pre, l, post, x, y, hsplit, hindex, hfrom, htext, rfl, hy⟩ :=
      exists_collected hp hspan hpos hne hclosing hvalue
    rw [← List.append_assoc] at htext
    rw [List.append_assoc, List.length_append] at hn
    obtain ⟨line, hline, hstop⟩ := hfrom.stop
    have hposition := positionIn_eq hsplit hfrom htext hy
    rw [hindex] at hline hposition
    have hcovers := hfrom.covers
    rw [htext] at hcovers
    have hclosed := hcovers.part.slice_eq
    have hlen := hcovers.stop
    have hlines : lines = pre.map (·.text) ++ l.text :: post.map (·.text) := by
      simp only [lines, c, hsplit, List.map_append, List.map_cons]
    have htake : lines.take pre.length = pre.map (·.text) := by
      rw [hlines, List.take_append_of_le_length (by simp), List.take_of_length_le (by simp)]
    have htake' : lines.take (pre.length + 1) = pre.map (·.text) ++ [l.text] := by
      rw [hlines, List.take_append, List.take_of_length_le (by simp)]
      simp
    refine ⟨n, sc, pre.length, l.start + (x ++ s.reader.closing).length, line, rfl, ?_, ?_, ?_, hline,
      ?_, ?_, ?_⟩
    · rw [attempt, hattempt, hf, hn, ← hposition]
      rfl
    · rw [htake, ← List.flatMap_def, hn, List.length_append]
      omega
    · rw [htake', List.flatten_append, ← List.flatMap_def, List.flatten_singleton, hn, htext]
      simp only [List.length_append]
      omega
    · simp only [List.length_append] at hlen ⊢
      omega
    · rw [List.length_append]
      omega
    · rwa [List.length_append, ← Nat.add_assoc, Nat.add_sub_cancel]

/-- A shortcode that ends on the second of three lines, whose indentation the paragraph took off. -/
theorem attempt_shortcode_position_second_line :
    let source := utf8 "a \x7b\x7b< x\n   y=\"1\" >\x7d\x7d b\nc\n"
    let spans : List Span := [⟨0, 8, 0⟩, ⟨11, 23, 0⟩, ⟨23, 24, 0⟩]
    let s : ShortcodeSource := ⟨.new (utf8 "\x7b\x7b<") (utf8 ">\x7d\x7d") id, some ⟨false, []⟩⟩
    let scope : InlineScope := ⟨⟨[], [], true, false⟩, source, textLines source spans, [], .document, true⟩
    let state : InlineState := { memory := ⟨.initial, [], []⟩ }
    let c := TextCursor.onLine source spans 0 2
    ParagraphLines source spans ∧ s.reader.opening <+: c.line ∧
      ∃ sc k stop state', attempt scope state c (.shortcode s) =
          .applied state' (.onLine source spans (0 + k) stop) ∧
        sc = ⟨utf8 "x", [⟨utf8 "y", utf8 "1"⟩]⟩ ∧
        state' = state.pushNode (.leaf (.shortcode sc) []) ∧
        Bytes.slice source (stop - 3) stop = utf8 ">\x7d\x7d" := by
  intro source spans s scope state c
  have hp : ParagraphLines source spans := ⟨by decide, by decide, by decide⟩
  have hopening : s.reader.opening <+: c.line := by decide +kernel
  have hfound : Opening.tokenize s .initial (((collect c).map (·.text)).flatten) =
      (some (18, ⟨utf8 "x", [⟨utf8 "y", utf8 "1"⟩]⟩), .initial) := by decide +kernel
  refine ⟨hp, hopening, ?_⟩
  rcases attempt_shortcode_position hp (rfl : scope.source = source) state s (by decide) rfl
    (by decide) hopening with ⟨hnone, -⟩ | ⟨n, sc, k, stop, line, hsome, hattempt, -, -, -, -, -, hclosing⟩
  · rw [hfound] at hnone
    cases hnone
  · rw [hfound] at hsome hattempt
    obtain ⟨-, rfl⟩ := Prod.mk.inj (Option.some.inj hsome)
    exact ⟨_, k, stop, _, hattempt, rfl, rfl, hclosing⟩

end Inline

end MarkdownTidy
