import MarkdownTidy.Proofs.Document.EmphasisReading
import MarkdownTidy.Proofs.Document.SoleShortcode

/-! A paragraph whose lines stand at the margin, and legible marks on them. -/

namespace MarkdownTidy

variable {source l : Bytes} {ls : List Bytes}

/-! ### The block -/

open BlockState in
/-- Lines that stay one paragraph are read as that paragraph. -/
theorem readBlocks_margin (hn : ∀ m ∈ l :: ls, Bytes.newline ∉ m) (hl : Flush l) (hb : l.head? ≠ some (byte '['))
    (hstays : StaysParagraph (l :: ls)) (names : MarkdownAttributes) :
    let source := Bytes.unlines (l :: ls)
    ∃ blank ctx, ctx.footnotes = [] ∧ readBlocks Plain.grammar names source =
      ([.mk { kind := .paragraph, lines := trimLines source (lineSpans 0 (l :: ls)), blankBefore := blank } []], ctx) := by
  intro source
  obtain ⟨b, x, rfl, hspace⟩ := hl.exists_cons
  have hbracket : b ≠ byte '[' := by
    rintro rfl
    exact hb rfl
  have hhead : ∀ c ∈ (b :: x).head?, Bytes.isSpace c = false := by
    rintro c ⟨⟩
    exact hspace
  have hlen : (Bytes.lines source).length = ls.length + 1 := by
    rw [Bytes.lines_unlines hn, List.length_map, List.length_cons]
  obtain ⟨blank, hread⟩ := @readLines_first source 0 0 (b :: x) ls
    { context := { names := names }, cursor := .front 0 0 ((b :: x) :: ls) } rfl rfl hl.isBlank (ls.length + 1)
  obtain ⟨ctx, c, hcalm, hsame, hopen⟩ := @openAfter_first source 0 0 (b :: x) ls blank
    { context := { names := names }, cursor := .front 0 0 ((b :: x) :: ls) } ⟨rfl, rfl⟩ (hstays.first _ rfl)
    (hn _ List.mem_cons_self) (List.cons_ne_nil _ _) hhead rfl
  rw [span_front, Nat.zero_add] at hopen
  rw [hopen] at hread
  dsimp only at hread
  rw [List.isEmpty_cons, if_neg Bool.false_ne_true] at hread
  have hin : InParagraph source
      { context := ctx, cursor := c.nextLine, closed := [],
        frames := [⟨.paragraph, blank, [⟨0, (b :: x).length + 1, 0⟩], []⟩] }
      ⟨.paragraph, blank, [⟨0, (b :: x).length + 1, 0⟩], []⟩ 1 ((b :: x).length + 1) ls := by
    refine ⟨hcalm, rfl, rfl, rfl, ?_, ?_⟩
    · simpa using LineCursor.nextLine_of_sameLine hsame
    · simp [source]
  obtain ⟨ctx', hcalm', hclosed, hcontext⟩ := hin.readLines_keeps hstays.later (ls.length + 1) (Nat.lt_succ_self _)
  have htable : Table.find? source (lineSpans 0 ((b :: x) :: ls)) = none := by
    rw [← Option.isNone_iff_eq_none, ← keepsText_eq hspace hbracket]
    exact hstays.text
  have hspans : [⟨0, (b :: x).length + 1, 0⟩] ++ lineSpans ((b :: x).length + 1) ls = lineSpans 0 ((b :: x) :: ls) := by
    simp [lineSpans]
  rw [hspans, closeFrame_text (covers_lineSpans rfl) hspace hbracket htable] at hclosed hcontext
  refine ⟨blank, ctx', hcalm'.footnotes, ?_⟩
  rw [readBlocks, hlen, LineCursor.ofSource_unlines hn, hread, hclosed, hcontext]

/-! ### Its text -/

lemma exists_sheet {start : Nat} (hn : ∀ m ∈ l :: ls, Bytes.newline ∉ m) (hl : ∀ m ∈ l :: ls, Flush m)
    (hlast : ∀ m ∈ (l :: ls).getLast?, ∀ b ∈ m.getLast?, Bytes.isSpace b = false)
    (h : source.drop start = Bytes.unlines (l :: ls)) :
    ∃ first later, textLines source (trimLines source (lineSpans start (l :: ls))) = first :: later ∧
      first.span.start = start ∧ first.span.padding = 0 ∧ first.before = (source.take start).reverse ∧ first.text ≠ [] ∧
      Sheet source start first.text later ∧
      first.text ++ later.flatMap (·.text) = Bytes.join [Bytes.newline] (l :: ls) := by
  have hcovers := LineCursor.span_front_covers 0 h
  rw [span_front] at hcovers
  induction ls generalizing l start with
  | nil =>
    rw [List.forall_mem_singleton] at hn hl
    have hright := hcovers.trimRight (fun c hc => by rw [List.mem_singleton.mp hc]; rfl) (hlast l rfl) hl.ne_nil
    have hstart : (Span.trimRight ⟨start, start + (l.length + 1), 0⟩ source).start = start := by
      rw [Span.trimRight]
      split <;> rfl
    have htrim : trimLines source (lineSpans start [l]) = [Span.trimRight ⟨start, start + (l.length + 1), 0⟩ source] := by
      simp [trimLines, lineSpans, hl.trimLeft hcovers]
    rw [htrim]
    refine ⟨⟨Span.trimRight ⟨start, start + (l.length + 1), 0⟩ source, l, (source.take start).reverse⟩, [], ?_, hstart,
      hright.padding, rfl, hl.ne_nil, .last hn, by simp [Bytes.join]⟩
    refine congrArg₂ List.cons ?_ rfl
    dsimp only
    rw [hright.slice_eq, hstart]
  | cons m ls ih =>
    rw [List.forall_mem_cons] at hn hl
    rw [List.getLast?_cons_cons] at hlast
    have hdrop := Plain.drop_line h
    obtain ⟨next, later, hnext, hstart, hpadding, hbefore, hne, hsheet, hjoin⟩ := ih hn.2 hl.2 hlast hdrop (by
      have hcovers := LineCursor.span_front_covers 0 hdrop
      rwa [span_front] at hcovers)
    have htrim : trimLines source (lineSpans start (l :: m :: ls)) =
        ⟨start, start + (l.length + 1), 0⟩ :: trimLines source (lineSpans (start + (l.length + 1)) (m :: ls)) := by
      rw [lineSpans, Plain.trimLines_cons _ (by simp [lineSpans]), hl.1.trimLeft hcovers]
    rw [htrim]
    refine ⟨⟨⟨start, start + (l.length + 1), 0⟩, l ++ [Bytes.newline], (source.take start).reverse⟩, next :: later, ?_, rfl,
      rfl, rfl, by simp, .more hn.1 hstart hpadding hbefore hne hsheet, ?_⟩
    · refine congrArg₂ List.cons ?_ hnext
      dsimp only
      rw [hcovers.slice_eq]
    · rw [List.flatMap_cons, hjoin, Bytes.join_cons (List.cons_ne_nil m ls)]

namespace Piece

lemma Sound.unhidePipes {p : Piece} (h : p.Sound source) (pipes : List Nat) :
    unhidePipes pipes false p.toNode = p.toNode := by
  induction h with
  | text => rfl
  | delimiter => rfl
  | wrapped _ ih =>
    rename_i level inner hsound
    have hinner : unhidePipesIn pipes false (toNodes inner) = toNodes inner := by
      clear hsound
      induction inner with
      | nil => rfl
      | cons p ps ihs =>
        rw [List.forall_mem_cons] at ih
        rw [toNodes, unhidePipesIn, ih.1, ihs ih.2]
    simp only [toNode, Node.leaf, MarkdownTidy.unhidePipes, hinner]

lemma unhidePipesIn_sound {ps : List Piece} (h : ∀ p ∈ ps, p.Sound source) (pipes : List Nat) :
    unhidePipesIn pipes false (toNodes ps) = toNodes ps := by
  induction ps with
  | nil => rfl
  | cons p ps ih =>
    rw [List.forall_mem_cons] at h
    rw [toNodes, unhidePipesIn, h.1.unhidePipes, ih h.2]

end Piece

namespace Inline

lemma read_legible {scope : InlineScope} {m : InlineMemory} {lead : Bytes} {ms : List Mark} {first : TextLine}
    {later : List TextLine} (hg : scope.grammar = Plain.grammar) (hsource : scope.source = source) (hm : m.footnotes = [])
    (hlines : scope.lines = first :: later) (hspace : ∀ b ∈ lead.getLast?, b = byte ' ')
    (hstart : first.span.start = lead.length) (hpadding : first.span.padding = 0) (hbefore : first.before = lead.reverse)
    (hne : first.text ≠ []) (hsheet : Sheet source lead.length first.text later)
    (hfits : lead ++ (first.text ++ later.flatMap (·.text)) <+: source)
    (hms : Mark.written ms = first.text ++ later.flatMap (·.text)) (hl : Legible [] lead ms) :
    Node.outlines source (read scope m).1 = ms.map Mark.token ∧
      ∀ pipes, unhidePipesIn pipes false (read scope m).1 = (read scope m).1 := by
  have hcursor : TextCursor.ofLines scope.lines = .atLine 0 first later := by rw [hlines, TextCursor.ofLines]
  have hmargin : (TextCursor.atLine 0 first later).Margin source lead := by
    refine ⟨hpadding, hstart, hbefore, ?_, hfits⟩
    simpa only [TextCursor.atLine, hstart] using hsheet
  have hstands : Standing source m [] [] lead [] ms (.begin ⟨[], [], m⟩ (.atLine 0 first later) false) :=
    .begin .nil rfl rfl hmargin (by rintro ⟨_, _, _, he, -⟩; cases he) hms hl.isFront
  have hsize : (Mark.written ms).length < 2 * (scope.lines.map fun l => l.text.length + 2).foldl (· + ·) 0 + 2 := by
    have hsum : ∀ ls : List TextLine, (ls.flatMap (·.text)).length ≤ (ls.map fun l => l.text.length + 2).sum := by
      intro ls
      induction ls with
      | nil => exact Nat.le_refl _
      | cons l ls ih =>
        simp only [List.flatMap_cons, List.length_append, List.map_cons, List.sum_cons]
        omega
    have htotal := hsum scope.lines
    rw [hlines, List.flatMap_cons, ← hms] at htotal
    rw [← List.sum_eq_foldl, hlines]
    omega
  have hlead : Lead scope lead := ⟨⟨first.span, by rw [hlines]; rfl, hstart⟩, hspace⟩
  obtain ⟨ps, hrun, hwoven⟩ := hstands.run hl rfl hg hsource hm hlead (List.prefix_refl _) _ hsize
  have hend : (TextCursor.atLine 0 first later).atEnd = false := by simp [TextCursor.atEnd, TextCursor.atLine, hne]
  obtain ⟨htokens, hsound⟩ := (hwoven.strand .nil).process
  rw [List.append_nil] at htokens hsound
  rw [List.append_nil] at htokens
  have hread : (read scope m).1 = Piece.toNodes (Piece.process ps.reverse) := by
    simp only [read, hcursor, hend, Bool.false_eq_true, if_false, hrun]
    rfl
  rw [hread]
  exact ⟨htokens, Piece.unhidePipesIn_sound hsound⟩

end Inline

/-! ### Legible lines -/

open Mark in
lemma Legible.flush_tail {open_ : List Bytes} {w : Bytes} {ms : List Mark} (h : Legible open_ w ms) :
    ∀ l ∈ (Bytes.split Bytes.newline (written ms)).tail, Flush l := by
  have hmore : ∀ {x y : Bytes}, Bytes.newline ∉ x → (∀ l ∈ (Bytes.split Bytes.newline y).tail, Flush l) →
      ∀ l ∈ (Bytes.split Bytes.newline (x ++ y)).tail, Flush l := by
    intro x y hx hy
    rw [Bytes.split_append_of_notMem hx]
    exact hy
  have hbreak : ∀ {x : Bytes} {o : List Bytes} {w' : Bytes} {ms' : List Mark}, Bytes.newline ∉ x →
      Legible o (w' ++ [Bytes.newline]) ms' → (∀ b ∈ (written ms').head?, Bytes.isSpace b = false) →
      (∀ l ∈ (Bytes.split Bytes.newline (written ms')).tail, Flush l) →
      ∀ l ∈ (Bytes.split Bytes.newline (x ++ Bytes.newline :: written ms')).tail, Flush l := by
    intro x o w' ms' hx hl hs ih
    rw [Bytes.split_append_newline hx, List.tail_cons]
    cases hw : written ms' with
    | nil => exact absurd ((hl.eq_nil hw).2.2 Bytes.newline (by simp)) (by decide)
    | cons c y =>
      have hc : Bytes.isSpace c = false := hs c (by rw [hw]; rfl)
      have hcn : Bytes.newline ∉ [c] := by
        rw [List.mem_singleton]
        rintro rfl
        cases hc
      rw [hw, ← List.singleton_append, Bytes.split_append_of_notMem hcn] at ih
      rw [← List.singleton_append, Bytes.split_append_of_notMem hcn]
      exact List.forall_mem_cons.mpr ⟨⟨c, rfl, hc⟩, ih⟩
  have hmarker : ∀ {d : Delimiter}, d.mark ∈ utf8 "*_" → Bytes.newline ∉ d.marker :=
    fun hm hn => (Delimiter.plain_of_marker hm _ hn).1 rfl
  induction h with
  | nil => simp [written, Bytes.split]
  | byte _ hn _ ih => exact hmore (x := [_]) (by simpa using Ne.symm hn) ih
  | escaped hn _ ih => exact hmore (x := [_, _]) (by simpa using ⟨by decide, Ne.symm hn⟩) ih
  | idle _ hm _ _ _ ih =>
    rw [written_append, written_bytes]
    exact hmore (hmarker hm) ih
  | opening _ hm _ _ _ ih => exact hmore (hmarker (Delimiter.mark_of_marker hm).1) ih
  | closing _ hm _ _ ih => exact hmore (hmarker (Delimiter.mark_of_marker hm).1) ih
  | soft _ hs hl ih => exact hbreak (x := []) (by simp) hl hs ih
  | @hard _ w _ _ hs hl ih =>
    rw [show w ++ [MarkdownTidy.byte '\\', Bytes.newline] = (w ++ [MarkdownTidy.byte '\\']) ++ [Bytes.newline] by simp] at hl
    exact hbreak (x := [MarkdownTidy.byte '\\']) (by decide) hl hs ih

open Mark in
lemma Legible.last {open_ : List Bytes} {w : Bytes} {ms : List Mark} (h : Legible open_ w ms) :
    ∀ b ∈ (w ++ written ms).getLast?, Bytes.isSpace b = false := by
  induction h with
  | nil hw => simpa [written] using hw
  | idle _ _ _ _ _ ih => rwa [written_append, written_bytes, ← List.append_assoc]
  | byte _ _ _ ih | escaped _ _ ih | opening _ _ _ _ _ ih | closing _ _ _ _ ih | soft _ _ _ ih | hard _ _ _ ih =>
    simpa [written_cons, bytes] using ih

open Mark in
lemma Legible.exists_lines {ms : List Mark} (h : Legible [] [] ms) (hne : written ms ≠ [])
    (hhead : ∀ b ∈ (written ms).head?, Bytes.isSpace b = false) :
    ∃ l ls, Bytes.split Bytes.newline (written ms) = l :: ls ∧ written ms = Bytes.join [Bytes.newline] (l :: ls) ∧
      (∀ m ∈ l :: ls, Bytes.newline ∉ m) ∧ (∀ m ∈ l :: ls, Flush m) ∧ l.head? ≠ some (MarkdownTidy.byte '[') ∧
      ∀ m ∈ (l :: ls).getLast?, ∀ b ∈ m.getLast?, Bytes.isSpace b = false := by
  have hlast := h.last
  have hbracket := h.head_ne_bracket
  have htail := h.flush_tail
  obtain ⟨ls, t, hsplit, hjoin, hn⟩ := Bytes.exists_split (written ms)
  have hend : ∀ m ∈ (ls ++ [t]).getLast?, ∀ b ∈ m.getLast?, Bytes.isSpace b = false := by
    rw [List.getLast?_concat]
    rintro _ ⟨⟩ b hb
    refine hlast b ?_
    rw [List.nil_append, hjoin, List.getLast?_append, hb]
    rfl
  have hunlines : Bytes.unlines (ls ++ [t]) = written ms ++ [Bytes.newline] := by
    rw [Bytes.unlines_append, hjoin]
    simp
  rw [Bytes.unlines_eq_join (by simp)] at hunlines
  have hwritten := (List.append_inj' hunlines rfl).1.symm
  obtain ⟨b, x, hcons⟩ := List.exists_cons_of_ne_nil hne
  have hb : Bytes.isSpace b = false := hhead b (by rw [hcons]; rfl)
  have hbn : Bytes.newline ∉ [b] := by
    rw [List.mem_singleton]
    rintro rfl
    cases hb
  rw [← hsplit] at hend hn hwritten
  rw [hcons, List.head?_cons] at hbracket
  rw [hcons, ← List.singleton_append, Bytes.split_append_of_notMem hbn] at hend hn hwritten htail ⊢
  exact ⟨_, _, rfl, hwritten, hn, List.forall_mem_cons.mpr ⟨⟨b, rfl, hb⟩, htail⟩, hbracket, hend⟩

/-- Legible marks on lines that stay one paragraph are read as a paragraph that says what the marks do. -/
theorem parseDocument_legible {ms : List Mark} (hl : Legible [] [] ms) (hne : Mark.written ms ≠ [])
    (hhead : ∀ b ∈ (Mark.written ms).head?, Bytes.isSpace b = false)
    (hstays : StaysParagraph (Bytes.split Bytes.newline (Mark.written ms))) (names : MarkdownAttributes) :
    ∃ info ns, (parseDocument Plain.grammar names (Mark.written ms ++ [Bytes.newline])).1.children = [.mk info ns] ∧
      info.kind = .paragraph ∧ Node.outlines (Mark.written ms ++ [Bytes.newline]) ns = ms.map Mark.token := by
  obtain ⟨l, ls, hlines, hwritten, hn, hflush, hbracket, hlast⟩ := hl.exists_lines hne hhead
  rw [hlines] at hstays
  have hunlines : Mark.written ms ++ [Bytes.newline] = Bytes.unlines (l :: ls) := by
    rw [hwritten, Bytes.unlines_eq_join (List.cons_ne_nil _ _)]
  rw [hunlines]
  generalize hsource : Bytes.unlines (l :: ls) = source
  obtain ⟨blank, ctx, hnotes, hread⟩ := readBlocks_margin hn (hflush l List.mem_cons_self) hbracket hstays names
  rw [hsource] at hread
  obtain ⟨first, later, htext, hstart, hpadding, hbefore, hnonempty, hsheet, hjoined⟩ :=
    @exists_sheet source l ls 0 hn hflush hlast hsource.symm
  have hfits : first.text ++ later.flatMap (·.text) <+: source := by
    rw [hjoined, ← hsource, Bytes.unlines_eq_join (List.cons_ne_nil _ _)]
    exact List.prefix_append _ _
  have hspans : trimLines source (lineSpans 0 (l :: ls)) ≠ [] := by
    intro he
    rw [he] at htext
    cases htext
  have htokens : ∀ refs holder position (m : InlineMemory), m.footnotes = [] → _ := fun refs holder position m hm =>
    @Inline.read_legible source ⟨Plain.grammar, source, textLines source (trimLines source (lineSpans 0 (l :: ls))),
      refs, holder, position⟩ m [] ms first later rfl rfl hm htext (by simp) hstart hpadding hbefore hnonempty hsheet hfits
      (hwritten.trans hjoined.symm) hl
  obtain ⟨hblocks, hfootnotes⟩ := Prod.ext_iff.mp hread
  dsimp only at hblocks hfootnotes
  rw [← hfootnotes] at hnotes
  obtain ⟨refs, holder, position, m, hm, hchildren⟩ :=
    parseDocument_nest (List.forall_mem_nil _) (.inl rfl) hblocks hnotes hspans
      fun refs holder position m pipes hm => (htokens refs holder position m hm).2 pipes
  exact ⟨_, _, hchildren, rfl, (htokens refs holder position m hm).1⟩

end MarkdownTidy
