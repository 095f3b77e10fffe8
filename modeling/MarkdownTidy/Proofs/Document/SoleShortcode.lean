import MarkdownTidy.Document.Parse
import MarkdownTidy.Proofs.Document.InlineShortcode
import MarkdownTidy.Proofs.Document.QuotedLines

/-! A block whose whole text is one shortcode, each line of it behind a marker. -/

namespace MarkdownTidy

variable {source : Bytes} {spans : List Span} {ls : List Bytes}

/-! ### The rules for inline markup

Blocks are read without them. -/

section

variable (g : Grammar) (rules : List InlineRule) (source : Bytes)

lemma closeFrame_withInline : closeFrame { g with inline := rules } source = closeFrame g source := rfl

lemma closeFrames_withInline (ctx : BlockContext) (frames : List Frame) :
    closeFrames { g with inline := rules } source ctx frames = closeFrames g source ctx frames := by
  induction frames generalizing ctx with
  | nil => rfl
  | cons f frames ih => rw [closeFrames, ih, closeFrame_withInline, closeFrames]

namespace OpeningState

lemma rules_withInline (s : OpeningState) : s.rules { g with inline := rules } = s.rules g := rfl

lemma run_withInline (blank : Bool) (fuel : Nat) (s : OpeningState) :
    run { g with inline := rules } source blank fuel s = run g source blank fuel s := by
  induction fuel generalizing s with
  | zero => rfl
  | succ fuel ih =>
    have hsettle : settleParagraph { g with inline := rules } source = settleParagraph g source := rfl
    simp only [run, rules_withInline, hsettle, ih]

end OpeningState

namespace BlockState

lemma openAfter_withInline (s : BlockState) :
    s.openAfter { g with inline := rules } source = s.openAfter g source := by
  funext blank kept left c
  have hopen : openBlocks { g with inline := rules } source = openBlocks g source := by
    funext blank ctx c holder last lastIsInHolder
    exact OpeningState.run_withInline g rules source blank _ _
  have hclose : closeFrames { g with inline := rules } source = closeFrames g source := by
    funext ctx frames
    exact closeFrames_withInline g rules source ctx frames
  rw [openAfter, openAfter, hopen, hclose]

lemma readLines_withInline (fuel : Nat) (s : BlockState) :
    s.readLines { g with inline := rules } source fuel = s.readLines g source fuel := by
  induction fuel generalizing s with
  | zero => simp only [readLines, finish, closeFrames_withInline]
  | succ fuel ih => simp only [readLines, readLine, finish, openAfter_withInline, closeFrames_withInline, ih]

end BlockState

lemma readBlocks_withInline (names : MarkdownAttributes) :
    readBlocks { g with inline := rules } names source = readBlocks g names source := by
  rw [readBlocks, BlockState.readLines_withInline, readBlocks]

end

/-! ### The text of marked lines -/

namespace MarkedText

lemma ne_nil (h : MarkedText source spans ls) : ls ≠ [] := by
  cases h <;> exact List.cons_ne_nil _ _

lemma paragraphLines (h : MarkedText source spans ls) (hne : ∀ l ∈ ls, l ≠ []) : ParagraphLines source spans := by
  have hinside : ∀ {s : Span} {t : Bytes}, s.Covers source t → t ≠ [] → s.start ≤ s.stop ∧ s.stop ≤ source.length := by
    intro s t hs ht
    have hlen := hs.isPrefix.length_le
    have hpos := List.length_pos_iff.mpr ht
    rw [List.length_drop] at hlen
    rw [hs.stop]
    omega
  induction h with
  | last h _ =>
    rw [List.forall_mem_singleton] at hne
    refine ⟨?_, ?_, by simp⟩
    · rw [List.forall_mem_singleton]
      exact h.padding
    · rw [List.forall_mem_singleton]
      exact hinside h hne
  | @more s l spans ls h hs ih =>
    rw [List.forall_mem_cons] at hne
    have hrest := ih hne.2
    have hspans : spans ≠ [] := by cases hs <;> exact List.cons_ne_nil _ _
    refine ⟨?_, ?_, ?_⟩
    · exact List.forall_mem_cons.mpr ⟨h.covers.padding, hrest.unpadded⟩
    · exact List.forall_mem_cons.mpr ⟨hinside h.covers (by simp), hrest.inside⟩
    · rw [List.dropLast_cons_of_ne_nil hspans]
      refine List.forall_mem_cons.mpr ⟨?_, hrest.ended⟩
      rw [h.covers.slice_eq, List.getLast?_concat]

lemma text_collectLater (h : MarkedText source spans ls) (i offset : Nat) :
    (Inline.collectLater i offset (textLines source spans)).flatMap (·.text) = Bytes.join [Bytes.newline] ls := by
  induction h generalizing i offset with
  | @last s l h hi =>
    rw [h.slice_eq] at hi
    simp [textLines, Inline.collectLater, h.slice_eq, hi, Bytes.join]
  | @more s l spans ls h hs ih =>
    have hrest := ih (i + 1) (offset + (l ++ [Bytes.newline]).length)
    have hi := h.unindented
    rw [textLines] at hrest
    rw [h.covers.slice_eq] at hi
    simp only [textLines, List.map_cons, Inline.collectLater, h.covers.slice_eq, hi, List.nil_append, List.flatMap_cons,
      hrest, Bytes.join_cons hs.ne_nil]

lemma text_collect (h : MarkedText source spans ls) :
    (Inline.collect (.ofLines (textLines source spans))).flatMap (·.text) = Bytes.join [Bytes.newline] ls := by
  cases h with
  | last h _ => simp [textLines, TextCursor.ofLines, TextCursor.atLine, Inline.collect, Inline.collectLater, h.slice_eq,
      Bytes.join]
  | @more s l spans ls h hs =>
    have hrest := hs.text_collectLater 1 (l ++ [Bytes.newline]).length
    rw [textLines] at hrest
    simp only [textLines, List.map_cons, TextCursor.ofLines, TextCursor.atLine, Inline.collect, h.covers.slice_eq,
      List.flatMap_cons, Nat.zero_add, hrest, Bytes.join_cons hs.ne_nil]

end MarkedText

/-! ### Reading the text -/

namespace Inline

lemma length_collectLater (i offset : Nat) (lines : List TextLine) :
    (collectLater i offset lines).length = lines.length := by
  induction lines generalizing i offset with
  | nil => rfl
  | cons l lines ih => rw [collectLater, List.length_cons, List.length_cons, ih]

lemma pos_orElse {p : Nat × Ending} {o o' : Option (Nat × Ending)} (ho : ∀ q ∈ o, 0 < q.1) (ho' : 0 < (o'.getD p).1) :
    0 < ((o <|> o').getD p).1 := by
  cases o with
  | none => exact ho'
  | some q => exact ho q rfl

lemma ending_pos {line : Bytes} (h : 4 < line.length) : 0 < (ending line).1 := by
  rw [ending]
  cases line.reverse with
  | nil => exact Nat.zero_lt_of_lt h
  | cons a rest =>
    dsimp only
    split
    · exact Nat.zero_lt_of_lt h
    · generalize (if rest.head? == some (byte '\r') then List.drop 1 rest else rest) = body
      refine pos_orElse ?_ (pos_orElse ?_ (pos_orElse ?_ ?_))
      · intro q hq
        repeat' split at hq
        all_goals first | cases hq; exact Nat.sub_pos_of_lt (by omega) | cases hq
      · intro q hq
        repeat' split at hq
        all_goals first | cases hq; exact Nat.sub_pos_of_lt (by omega) | cases hq
      · intro q hq
        split at hq
        · cases hq
          exact Nat.sub_pos_of_lt (by omega)
        · cases hq
      · repeat' split
        · exact Nat.sub_pos_of_lt (by omega)
        · exact Nat.zero_lt_of_lt h
        · exact Nat.zero_lt_of_lt h

lemma atEnd_positionIn (hp : ParagraphLines source spans) {span : Span} {pos : Nat} (hspan : spans[0]? = some span)
    (hpos : pos ≤ span.stop) :
    let c := TextCursor.onLine source spans 0 pos
    (positionIn source (collect c) ((collect c).flatMap (·.text)).length c).atEnd = true := by
  intro c
  obtain ⟨pre, l, hsplit⟩ : ∃ pre l, collect c = pre ++ [l] := by
    rcases (collect c).eq_nil_or_concat' with h | ⟨pre, l, h⟩
    · cases h
    · exact ⟨pre, l, h⟩
  have hk : (collect c)[pre.length]? = some l := by
    rw [hsplit, List.getElem?_append_right le_rfl, Nat.sub_self, List.getElem?_cons_zero]
  obtain ⟨hindex, hfrom⟩ := from_collect hp hspan hpos hk
  have hcount : pre.length + 1 = spans.length := by
    have hlen := congrArg List.length hsplit
    have hpos := (List.getElem?_eq_some_iff.mp hspan).1
    simp only [collect, c, TextCursor.onLine, List.length_cons, length_collectLater, textLines, List.length_map,
      List.length_drop, List.length_append, List.length_nil] at hlen
    omega
  have hposition := positionIn_eq (x := l.text) (y := []) hsplit hfrom (by simp) (by simp)
  have htotal : ((collect c).flatMap (·.text)).length = (pre.flatMap (·.text)).length + l.text.length := by
    simp [hsplit]
  obtain ⟨s, hs, hstop⟩ := hfrom.stop
  have hcover : l.stop = l.start + l.text.length := hfrom.covers.stop
  rw [hindex, Nat.zero_add] at hs
  rw [htotal, hposition, hindex, Nat.zero_add]
  simp [TextCursor.atEnd, TextCursor.onLine, hs, ← hstop, hcover, hcount, Bytes.slice, textLines]

lemma run_applied {scope : InlineScope} {r : Reading} {b : UInt8} {x : Bytes} (hline : r.cursor.line = b :: x)
    (hleft : 0 < r.left) (hb : Bytes.isPunct b = true) (hescaped : r.escaped = false) (hfresh : r.fresh = true)
    (hrules : scope.grammar.inlineRulesFor b ≠ []) {s : InlineState} {c : TextCursor} {once : Bool}
    (happlied : firstOf scope r.cursor true r.state (scope.grammar.inlineRulesFor b) = (.applied s c, once))
    (hend : c.atEnd = true) (fuel : Nat) : Reading.run scope (fuel + 1) r = s := by
  obtain ⟨n, hn⟩ : ∃ n, r.left = n + 1 := ⟨r.left - 1, by omega⟩
  have hnewline : (b == Bytes.newline) = false := by
    rw [beq_eq_false_iff_ne]
    rintro rfl
    cases hb
  have hspace : Bytes.isSpace b = false := by
    by_contra h
    simp only [Bytes.isSpace, Bool.not_eq_false, Bool.or_eq_true, beq_iff_eq] at h
    rcases h with (((rfl | rfl) | rfl) | rfl) | rfl <;> cases hb
  have hsome : (scope.grammar.inlineRulesFor b).isEmpty = false := by simpa using hrules
  rw [Reading.run, hn, hline]
  simp only [hnewline, hspace, hb, hescaped, hfresh, hsome, happlied, hend, Bool.not_true, Bool.not_false, Bool.or_false,
    Bool.and_self, Bool.or_self, Bool.false_eq_true, if_true, if_false]

variable {s : ShortcodeSource} {sc : Shortcode} {b : UInt8}

/-- Text that is one shortcode from its first byte to its last is read as that shortcode. -/
lemma read_shortcode {scope : InlineScope} {spans : List Span} {ls : List Bytes}
    (hlines : scope.lines = textLines scope.source spans) (h : MarkedText scope.source spans ls)
    (hne : ∀ l ∈ ls, l ≠ []) (hb : Bytes.isPunct b = true) (hrules : scope.grammar.inlineRulesFor b = [.shortcode s])
    (hfirst : ∀ l ∈ ls.head?, 4 < l.length ∧ l.head? = some b ∧ s.reader.opening <+: l)
    (htoken : ∀ names, (Opening.tokenize s names (Bytes.join [Bytes.newline] ls)).1 =
      some ((Bytes.join [Bytes.newline] ls).length, sc)) (m : InlineMemory) :
    (read scope m).1 = [.leaf (.shortcode sc) []] := by
  have hp := h.paragraphLines hne
  obtain ⟨span, l, t, hspan, hcovers, hlong, hhead, hopening⟩ : ∃ span l t, spans[0]? = some span ∧
      span.Covers scope.source (l ++ t) ∧ 4 < l.length ∧ l.head? = some b ∧ s.reader.opening <+: l := by
    cases h with
    | @last span l h hi => exact ⟨span, l, [], rfl, by simpa using h, hfirst l rfl⟩
    | @more span l _ _ h hs => exact ⟨span, l, [Bytes.newline], rfl, h.covers, hfirst l rfl⟩
  obtain ⟨x, rfl⟩ := List.head?_eq_some_iff.mp hhead
  have hcursor : TextCursor.ofLines scope.lines = .onLine scope.source spans 0 span.start := by
    obtain ⟨rest, rfl⟩ : ∃ rest, spans = span :: rest := by
      rw [← List.head?_eq_getElem?] at hspan
      exact List.head?_eq_some_iff.mp hspan
    rw [hlines, textLines, List.map_cons, TextCursor.ofLines, TextCursor.atLine, hcovers.padding]
    rfl
  have hline : (TextCursor.onLine scope.source spans 0 span.start).line = b :: (x ++ t) := by
    simp [TextCursor.line, TextCursor.peek?, TextCursor.atEnd, TextCursor.onLine, hspan, hcovers.slice_eq, Bytes.spaces]
  have hend := atEnd_positionIn hp hspan (show span.start ≤ span.stop by rw [hcovers.stop]; omega)
  have htext := h.text_collect
  rw [← hlines, hcursor] at htext
  dsimp only at hend
  generalize TextCursor.onLine scope.source spans 0 span.start = c at hcursor htext hend hline
  have hopened : s.reader.opening <+: c.line := by
    rw [hline]
    exact hopening.trans ⟨t, rfl⟩
  have hnames := htoken m.names
  rw [← htext] at hnames
  have happlied := shortcode?_eq scope s m.names hopened
  rw [hnames, Option.map_some] at happlied
  have hstart : c.atEnd = false := by
    by_contra hnot
    rw [Bool.not_eq_false] at hnot
    simp [TextCursor.line, TextCursor.peek?, hnot] at hline
  have hleft : 0 < (ending c.line).1 := ending_pos (by rw [hline]; simp at hlong ⊢; omega)
  have hfound : firstOf scope c true ⟨[], [], m⟩ (scope.grammar.inlineRulesFor b) =
      (.applied ⟨[.node (.leaf (.shortcode sc) [])], [], { m with names := (shortcode? scope s m.names c).2 }⟩
        (positionIn scope.source (collect c) ((collect c).flatMap (·.text)).length c), true) := by
    rw [hrules]
    simp only [firstOf, attempt, happlied]
    rfl
  have hrun := run_applied (r := .begin ⟨[], [], m⟩ c false) hline hleft hb rfl rfl
    (by rw [hrules]; exact List.cons_ne_nil _ _) hfound hend
  rw [read, hcursor, hstart, if_neg Bool.false_ne_true]
  dsimp only
  rw [hrun]
  rfl

end Inline

/-! ### The tree around the text -/

def Info.IsContainer (i : Info) : Prop :=
  i.lines = [] ∧ (i.kind = .blockquote ∨ (∃ mark first tight, i.kind = .list mark first tight) ∨
    ∃ offset, i.kind = .listItem offset)

section

variable {outer : List Info}

lemma fillNode_nest (hi : ∀ i ∈ outer, i.IsContainer) (notes : List Node) (n : Node) :
    Footnotes.fillNode notes (.nest outer n) = .nest outer (Footnotes.fillNode notes n) := by
  induction outer with
  | nil => rfl
  | cons i outer ih =>
    rw [List.forall_mem_cons] at hi
    have hinner := ih hi.2
    rcases hi.1.2 with hk | ⟨mark, first, tight, hk⟩ | ⟨offset, hk⟩ <;>
      simp only [Node.nest, Footnotes.fillNode, Footnotes.fillNodes, hk, hinner]

lemma unhidePipes_nest (hi : ∀ i ∈ outer, i.IsContainer) (pipes : List Nat) (n : Node) :
    unhidePipes pipes false (.nest outer n) = .nest outer (unhidePipes pipes false n) := by
  induction outer with
  | nil => rfl
  | cons i outer ih =>
    rw [List.forall_mem_cons] at hi
    have hinner := ih hi.2
    rcases hi.1.2 with hk | ⟨mark, first, tight, hk⟩ | ⟨offset, hk⟩ <;>
      simp only [Node.nest, unhidePipes, unhidePipesIn, hk, hinner]

lemma readText_nest (hi : ∀ i ∈ outer, i.IsContainer) (t : TextScope) (holder : Kind) (first : Bool) (m : InlineMemory)
    (n : Node) :
    ∃ holder' first', (readText t holder first m (.nest outer n)).1 =
      .nest outer (readText t holder' first' m n).1 := by
  induction outer generalizing holder first with
  | nil => exact ⟨holder, first, rfl⟩
  | cons i outer ih =>
    rw [List.forall_mem_cons] at hi
    obtain ⟨holder', first', hinner⟩ := ih hi.2 i.kind true
    refine ⟨holder', first', ?_⟩
    simp only [Node.nest, readText, readTexts, hi.1.1, List.isEmpty_nil, Bool.or_true, if_true, hinner]

variable {g : Grammar} {names : MarkdownAttributes} {info : Info} {s : ShortcodeSource} {sc : Shortcode} {b : UInt8}

/-- Containers around one text hold what the text is read as, and nothing else. -/
theorem parseDocument_nest (hi : ∀ i ∈ outer, i.IsContainer) (hk : info.kind = .paragraph ∨ info.kind = .textBlock)
    (hblocks : (readBlocks g names source).1 = [.nest outer (.mk info [])])
    (hnotes : (readBlocks g names source).2.footnotes = []) (hlines : info.lines ≠ [])
    (hpipes : ∀ refs holder first m pipes, m.footnotes = [] →
      unhidePipesIn pipes false (Inline.read ⟨g, source, textLines source info.lines, refs, holder, first⟩ m).1 =
        (Inline.read ⟨g, source, textLines source info.lines, refs, holder, first⟩ m).1) :
    ∃ refs holder first m, m.footnotes = [] ∧ (parseDocument g names source).1.children =
      [.nest outer (.mk info (Inline.read ⟨g, source, textLines source info.lines, refs, holder, first⟩ m).1)] := by
  have htext : ∀ refs holder first m, (readText ⟨g, source, refs⟩ holder first m (.mk info [])).1 =
      .mk info (Inline.read ⟨g, source, textLines source info.lines, refs, holder, first⟩ m).1 := by
    intro refs holder first m
    have hempty : info.lines.isEmpty = false := by simpa using hlines
    have hverbatim : info.kind.isVerbatim = false := by rcases hk with hk | hk <;> rw [hk] <;> rfl
    simp only [readText, readTexts, hverbatim, hempty, Bool.or_self, Bool.false_eq_true, if_false, List.nil_append]
  have hfill : Footnotes.fillNode [] (.mk info []) = .mk info [] := by
    rcases hk with hk | hk <;> simp only [Footnotes.fillNode, Footnotes.fillNodes, hk]
  obtain ⟨refs, holder, first, m, hm, hdoc⟩ : ∃ refs holder first m, m.footnotes = [] ∧
      (readDocument g names source).document = .leaf .document
        [.nest outer (.mk info (Inline.read ⟨g, source, textLines source info.lines, refs, holder, first⟩ m).1)] := by
    rcases hr : readBlocks g names source with ⟨blocks, ctx⟩
    rw [hr] at hblocks hnotes
    dsimp only at hblocks hnotes
    obtain ⟨holder, first, hinner⟩ :=
      readText_nest hi ⟨g, source, ctx.references⟩ .document true ⟨ctx.names, [], []⟩ (.mk info [])
    refine ⟨ctx.references, holder, first, ⟨ctx.names, [], []⟩, rfl, ?_⟩
    simp only [readDocument, hr, hblocks, hnotes, Footnotes.fillNodes, fillNode_nest hi, hfill, readTexts,
      List.map_nil]
    rw [hinner, htext]
  refine ⟨refs, holder, first, m, hm, ?_⟩
  have hresolved : (readDocument g names source).resolvePipes.document = (readDocument g names source).document := by
    rw [RawDocument.resolvePipes]
    split
    · rfl
    · simp only [hdoc, Node.leaf]
      rcases hk with hk | hk <;>
        simp only [unhidePipes, unhidePipesIn, unhidePipes_nest hi, hk, hpipes refs holder first m _ hm]
  have hfootnotes : (readDocument g names source).resolvePipes.footnotes = [] := by
    rw [RawDocument.resolvePipes]
    split <;> exact hnotes
  rw [parseDocument, RawDocument.finish]
  dsimp only
  rw [RawDocument.placeFootnotes, Footnotes.place, hfootnotes, hresolved, hdoc]
  rfl

theorem parseDocument_shortcode (hi : ∀ i ∈ outer, i.IsContainer)
    (hk : info.kind = .paragraph ∨ info.kind = .textBlock)
    (hblocks : (readBlocks g names source).1 = [.nest outer (.mk info [])])
    (hnotes : (readBlocks g names source).2.footnotes = []) (h : MarkedText source info.lines ls)
    (hne : ∀ l ∈ ls, l ≠ []) (hb : Bytes.isPunct b = true) (hrules : g.inlineRulesFor b = [.shortcode s])
    (hfirst : ∀ l ∈ ls.head?, 4 < l.length ∧ l.head? = some b ∧ s.reader.opening <+: l)
    (htoken : ∀ names, (Opening.tokenize s names (Bytes.join [Bytes.newline] ls)).1 =
      some ((Bytes.join [Bytes.newline] ls).length, sc)) :
    (parseDocument g names source).1.children = [.nest outer (.mk info [.leaf (.shortcode sc) []])] := by
  have hlines : info.lines ≠ [] := by
    revert h
    cases info.lines with
    | nil => rintro ⟨⟩
    | cons _ _ => exact fun _ => List.cons_ne_nil _ _
  have hread : ∀ refs holder first m,
      (Inline.read ⟨g, source, textLines source info.lines, refs, holder, first⟩ m).1 = [.leaf (.shortcode sc) []] :=
    fun refs holder first m => Inline.read_shortcode rfl h hne hb hrules hfirst htoken m
  obtain ⟨refs, holder, first, m, -, hchildren⟩ := parseDocument_nest hi hk hblocks hnotes hlines (by
    intro refs holder first m pipes _
    rw [hread]
    rfl)
  rw [hchildren, hread]

end

end MarkdownTidy
