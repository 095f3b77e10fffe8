import Mathlib.Data.Option.Basic
import MarkdownTidy.Proofs.Document.ParagraphLines

/-! The lines of a block quote. Lines that stay one paragraph at the margin are the only paragraph of a quote when
each stands behind its marker, unless there is white space between the two. -/

namespace MarkdownTidy

/-! ### Lines without white space in front -/

def Flush (l : Bytes) : Prop := ∃ b ∈ l.head?, Bytes.isSpace b = false

lemma measure_cons {b : UInt8} (hb : Bytes.isSpace b = false) (x : Bytes) (column : Nat) :
    Indent.measure (b :: x) column = (0, 0) := by
  have hs : b ≠ byte ' ' := by rintro rfl; cases hb
  have ht : b ≠ byte '\t' := by rintro rfl; cases hb
  simp [Indent.measure, Indent.measure.go, hs, ht]

namespace Flush

variable {source l : Bytes} {s : Span}

lemma exists_cons (h : Flush l) : ∃ b x, l = b :: x ∧ Bytes.isSpace b = false := by
  obtain ⟨b, hb, hspace⟩ := h
  obtain ⟨x, rfl⟩ := List.head?_eq_some_iff.mp hb
  exact ⟨b, x, rfl, hspace⟩

lemma ne_nil (h : Flush l) : l ≠ [] := by
  obtain ⟨b, x, rfl, -⟩ := h.exists_cons
  exact List.cons_ne_nil b x

lemma measure (h : Flush l) (column : Nat) : Indent.measure (l ++ [Bytes.newline]) column = (0, 0) := by
  obtain ⟨b, x, rfl, hb⟩ := h.exists_cons
  exact measure_cons hb _ column

lemma isBlank (h : Flush l) : Bytes.isBlank l = false := by
  obtain ⟨b, x, rfl, hb⟩ := h.exists_cons
  simp [Bytes.isBlank, hb]

lemma trimLeft (h : Flush l) {t : Bytes} (hs : s.Covers source (l ++ t)) : s.trimLeft source = s := by
  obtain ⟨b, x, rfl, hb⟩ := h.exists_cons
  rw [Span.trimLeft, hs.slice_eq, List.cons_append, List.takeWhile_cons_of_neg (by simp [hb])]
  rw [← show s.padding = 0 from hs.padding]
  rfl

end Flush

namespace LineCursor

variable {source a l : Bytes} {number start : Nat} {ls : List Bytes}

lemma rest_within : (within number start (a ++ l) ls a.length).rest = l ++ [Bytes.newline] := by
  have hdrop : (a ++ l ++ [Bytes.newline]).drop a.length = l ++ [Bytes.newline] := by
    rw [List.append_assoc, List.drop_left]
  simp only [rest, peek?, within, front, hdrop]
  cases l <;> rfl

lemma sees_within (number : Nat) (hl : Flush l) (hs : source.drop start = Bytes.unlines ((a ++ l) :: ls)) :
    (within number start (a ++ l) ls a.length).Sees source l :=
  ⟨rest_within, by rw [hl.measure, hl.measure], span_within_covers hs rfl⟩

lemma sameLine_toLastByte_within :
    (front number start ((a ++ l) :: ls)).SameLine (within number start (a ++ l) ls a.length).toLastByte := by
  have hlen : (within number start (a ++ l) ls a.length).span.length - 1 = l.length := by
    simp only [within, front, span, Span.length, List.length_append, List.length_singleton]
    omega
  rw [toLastByte, hlen, advance_within (by simp)]
  exact sameLine_within _

namespace Sees

variable {c : LineCursor}

lemma peek?_eq (h : c.Sees source l) : c.peek? = some (l ++ [Bytes.newline]) := by
  have hrest := h.rest
  rw [LineCursor.rest] at hrest
  cases hp : c.peek? with
  | none => simp [hp] at hrest
  | some x => rw [hp, Option.getD_some] at hrest; rw [hrest]

end Sees

end LineCursor

/-! ### What a line opens -/

namespace OpeningState

variable {source l x : Bytes} {s : OpeningState} {blank : Bool} {b : UInt8}

lemma rules_cons (hs : (s.continuable && s.opened.isEmpty) = false) (hb : Bytes.isSpace b = false) :
    s.rules Plain.grammar (b :: x) = Plain.triggered (b :: x) ++ [.codeBlock, .paragraph] := by
  rw [Plain.rules_eq, measure_cons hb, List.drop_zero, List.filter_eq_self]
  intro r _
  simp [hs]

lemma firstOf_text {c : LineCursor} (hc : c.Sees source l) (hl : Flush l) (place : Place) (ctx : BlockContext) :
    Opening.firstOf source place c ctx [.codeBlock, .paragraph] =
      (ctx, some { block := .paragraph, lines := [c.span], cursor := c.toLastByte }) := by
  have hcode : Opening.codeBlock c = none := by
    obtain ⟨b, x, rfl, hb⟩ := hl.exists_cons
    have hs : b ≠ byte ' ' := by rintro rfl; cases hb
    have ht : b ≠ byte '\t' := by rintro rfl; cases hb
    simp [Opening.codeBlock, hc.rest, Indent.take?, Indent.take?.go, Indent.take?.finish, hs, ht]
  have hempty : c.span.isEmpty = false := by
    have hstop := hc.covers.stop
    rw [List.length_append, List.length_singleton] at hstop
    simp only [Span.isEmpty, Bool.and_eq_false_iff, decide_eq_false_iff_not]
    omega
  simp only [Opening.firstOf, Opening.try_, hcode, Opening.paragraph, hl.trimLeft hc.covers, hempty,
    Bool.false_eq_true, if_false]

lemma run_text (hc : s.cursor.Sees source l) (hl : Flush l) (hn : Bytes.newline ∉ l)
    (ht : Plain.triggered (l ++ [Bytes.newline]) = []) (hlast : s.last = none)
    (hs : (s.continuable && s.opened.isEmpty) = false) (fuel : Nat) :
    s.run Plain.grammar source blank (fuel + 1) =
      s.push { block := .paragraph, lines := [s.cursor.span], cursor := s.cursor.toLastByte }
        { block := .paragraph, blankBefore := blank, lines := [s.cursor.span] } := by
  have hrules : s.rules Plain.grammar (l ++ [Bytes.newline]) = [.codeBlock, .paragraph] := by
    obtain ⟨b, x, rfl, hb⟩ := hl.exists_cons
    rw [List.cons_append] at ht ⊢
    rw [rules_cons hs hb, ht, List.nil_append]
  have hfound := firstOf_text hc hl s.place s.context
  rw [← hrules] at hfound
  rw [run_opens hc.peek?_eq (head?_line hn hl.ne_nil) hlast hfound]
  rfl

end OpeningState

/-! ### Block quotes -/

def quotedLine (l : Bytes) : Bytes := byte '>' :: byte ' ' :: l

section

variable {source l : Bytes} {number start : Nat} {ls : List Bytes} {ctx : BlockContext} {blank : Bool}

def quotedSpan (start : Nat) (l : Bytes) : Span := ⟨start + 2, start + (l.length + 3), 0⟩

lemma span_quoted : (LineCursor.within number start (quotedLine l) ls 2).span = quotedSpan start l := by
  simp [LineCursor.span, LineCursor.within, LineCursor.front, quotedLine, quotedSpan]

def quotedSpans (start : Nat) : List Bytes → List Span
  | [] => []
  | l :: ls => quotedSpan start l :: quotedSpans (start + (l.length + 3)) ls

lemma quoteMarker?_quoted :
    Opening.quoteMarker? (.front number start (quotedLine l :: ls)) = some (.within number start (quotedLine l) ls 2) := by
  have hmark : Bytes.isSpace (byte '>') = false := rfl
  have hinner : (LineCursor.front number start (quotedLine l :: ls)).advance 1 = .within number start (quotedLine l) ls 1 :=
    LineCursor.advance_within (n := 0) (by simp [quotedLine])
  have htext : (LineCursor.within number start (quotedLine l) ls 1).advance 1 = .within number start (quotedLine l) ls 2 :=
    LineCursor.advance_within (by simp [quotedLine])
  rw [Opening.quoteMarker?, LineCursor.rest_front_cons, quotedLine, List.cons_append, measure_cons hmark, ← quotedLine]
  dsimp only [Nat.zero_add]
  rw [if_neg (by simp), List.drop_succ_cons, List.drop_zero, List.cons_append, hinner, htext]
  rfl

lemma run_quoted (hl : Flush l) (hn : Bytes.newline ∉ l) (ht : Plain.triggered (l ++ [Bytes.newline]) = [])
    (hs : source.drop start = Bytes.unlines (quotedLine l :: ls)) (fuel : Nat) :
    let c := LineCursor.within number start (quotedLine l) ls 2
    (OpeningState.start ctx (.front number start (quotedLine l :: ls)) [] []).run Plain.grammar source blank (fuel + 2) =
      { context := ctx, cursor := c.toLastByte, holder := .other, last := none, lastIsInHolder := false,
        continuable := false,
        opened := [⟨.blockquote, blank, [], []⟩, ⟨.paragraph, blank, [c.span], []⟩] } := by
  intro c
  have hrules : (OpeningState.start ctx (.front number start (quotedLine l :: ls)) [] []).rules Plain.grammar
      (quotedLine l ++ [Bytes.newline]) = [.blockquote, .codeBlock, .paragraph] :=
    OpeningState.rules_cons rfl rfl
  have hfound : Opening.firstOf source (OpeningState.start ctx (.front number start (quotedLine l :: ls)) [] []).place
      (.front number start (quotedLine l :: ls)) ctx [.blockquote, .codeBlock, .paragraph] =
      (ctx, some { block := .blockquote, cursor := c, descend := true }) := by
    simp only [Opening.firstOf, Opening.try_, Opening.blockquote, quoteMarker?_quoted, Option.map_some, c]
  rw [← hrules] at hfound
  have hsees : c.Sees source l := LineCursor.sees_within (a := [byte '>', byte ' ']) number hl hs
  have hhead : (quotedLine l ++ [Bytes.newline]).head? ≠ some Bytes.newline :=
    show some (byte '>') ≠ some Bytes.newline by decide
  rw [OpeningState.run_opens LineCursor.peek?_front_cons hhead rfl hfound, if_pos rfl]
  exact OpeningState.run_text hsees hl hn ht rfl rfl fuel

variable {q f : Frame}

lemma run_behind_quoted (hq : q.block = .blockquote) (hf : f.block = .paragraph) (hctx : Calm ctx)
    (hb : beginsBlock true l = false) {c : LineCursor} (hc : c.Sees source l) (fuel : Nat) :
    ∃ ctx', Calm ctx' ∧ (OpeningState.start ctx c [q] [f]).run Plain.grammar source blank (fuel + 1) =
      .start ctx' c [q] [f] := by
  have hplace : (OpeningState.start ctx c [q] [f]).place = ⟨.other, false, true, true⟩ := by
    simp [OpeningState.start, OpeningState.place, Holder.ofFrames, hq, hf, OpenBlock.isList, OpenBlock.isParagraph]
  have hmay : (OpeningState.start ctx c [q] [f]).continuable = true := by
    simp [OpeningState.start, hf, OpenBlock.isParagraph]
  have hrules : (OpeningState.start ctx c [q] [f]).rules Plain.grammar (l ++ [Bytes.newline]) = lineRules l := by
    rw [rules_line hc.measure rfl, hmay, if_pos rfl, List.append_nil]
  have hnone : (Opening.firstOf source ⟨.other, false, true, true⟩ c ctx (lineRules l)).2.isSome = false :=
    (Opening.firstOf_line (by simp) true hc (fun _ => mem_lineRules) hctx ⟨rfl, rfl⟩).trans hb
  rw [← hplace, ← hrules] at hnone
  exact OpeningState.run_silent (s := .start ctx c [q] [f]) hc.peek?_eq hctx hnone fuel

namespace BlockState

variable {s : BlockState}

lemma openAfter_behind_quoted (hq : q.block = .blockquote) (hf : f.block = .paragraph) (hctx : Calm s.context)
    (hl : Flush l) (hb : beginsBlock true l = false) {c : LineCursor} (hc : c.Sees source l) :
    ∃ ctx', Calm ctx' ∧ s.openAfter Plain.grammar source blank [q] [f] c =
      { context := ctx', cursor := c, closed := s.closed, frames := [q, f.addLine c.span] } := by
  obtain ⟨ctx', hcalm, hrun⟩ :=
    @run_behind_quoted source l _ blank q f hq hf hctx hb c hc (2 * c.rest.length + 1)
  refine ⟨ctx', hcalm, ?_⟩
  have hcontinue : continueParagraph? c [f] = some [f.addLine c.span] := by
    simp [continueParagraph?, hf, OpenBlock.isParagraph, hc.rest, Plain.isBlank_line, hl.isBlank]
  rw [openAfter, OpeningState.openBlocks_eq_run, hrun]
  simp only [OpeningState.start, List.isEmpty_nil, List.isEmpty_cons, List.getLast?_singleton, Option.map_some, hf,
    OpenBlock.isParagraph, Option.getD_some, Bool.and_self, Bool.false_eq_true, if_true, if_false, hcontinue]
  rfl

lemma matchFrames_quoted (hq : q.block = .blockquote) (hf : f.block = .paragraph) (hl : Flush l)
    (hs : source.drop start = Bytes.unlines (quotedLine l :: ls)) (behind : Bool) (line : Nat) (ctx : BlockContext) :
    ∃ stats, matchFrames source behind line ctx (.front number start (quotedLine l :: ls)) 0 [] [q, f] =
      ({ ctx with stats := stats }, .upTo [q] [f] (.within number start (quotedLine l) ls 2)) := by
  have hc : (LineCursor.within number start (quotedLine l) ls 2).Sees source l :=
    LineCursor.sees_within (a := [byte '>', byte ' ']) number hl hs
  have hp : f.block.isParagraph = true := by rw [hf]; rfl
  have hn : q.block.isParagraph = false := by rw [hq]; rfl
  rw [matchFrames, LineCursor.peek?_front_cons]
  dsimp only
  rw [hn, if_neg Bool.false_ne_true, Continuing.block, hq]
  dsimp only
  rw [quoteMarker?_quoted]
  dsimp only
  rw [if_neg (show ¬ (true && [f].isEmpty) = true by simp), matchFrames, hc.peek?_eq]
  dsimp only
  rw [hp, if_pos rfl]
  exact ⟨_, rfl⟩

/-- Nothing was read so far but the lines of a paragraph in a block quote, both still open. -/
structure InQuote (source : Bytes) (s : BlockState) (q f : Frame) (number start : Nat) (ls : List Bytes) : Prop where
  calm : Calm s.context
  closed : s.closed = []
  frames : s.frames = [q, f]
  quote : q.block = .blockquote
  block : f.block = .paragraph
  cursor : s.cursor = .front number start (ls.map quotedLine)
  ahead : source.drop start = Bytes.unlines (ls.map quotedLine)

lemma InQuote.step_eq (h : s.InQuote source q f number start (l :: ls)) (hl : Flush l) :
    ∃ ctx blank, Calm ctx ∧ s.step Plain.grammar source =
      (true, let c := LineCursor.within number start (quotedLine l) (ls.map quotedLine) 2
        let t := openAfter Plain.grammar source { s with context := ctx } blank [q] [f] c
        { t with cursor := t.cursor.nextLine }) := by
  obtain ⟨stats, hmatch⟩ := @matchFrames_quoted source l number start (ls.map quotedLine) q f h.quote h.block hl h.ahead
    (([q, f].getLast?.map (·.block.isParagraph)).getD false) number s.context
  refine ⟨{ s.context with stats := stats }, BlockContext.blankBefore { s.context with stats := stats } number 1,
    ⟨h.calm.atNewItem, h.calm.footnotes⟩, ?_⟩
  rw [step, h.frames, h.cursor, List.map_cons, LineCursor.peek?_front_cons, readLine, h.frames, h.cursor,
    LineCursor.number_front, List.map_cons]
  dsimp only [List.isEmpty_cons]
  rw [if_neg Bool.false_ne_true, hmatch]
  rfl

lemma InQuote.keeps (h : s.InQuote source q f number start (l :: ls)) (hl : Flush l)
    (hk : beginsBlock true l = false) :
    (s.step Plain.grammar source).1 = true ∧ (s.step Plain.grammar source).2.InQuote source q
      (f.addLine (quotedSpan start l)) (number + 1) (start + (l.length + 3)) ls := by
  have hahead := h.ahead
  rw [List.map_cons] at hahead
  have hc : (LineCursor.within number start (quotedLine l) (ls.map quotedLine) 2).Sees source l :=
    LineCursor.sees_within (a := [byte '>', byte ' ']) number hl hahead
  obtain ⟨ctx, blank, hcalm, hstep⟩ := h.step_eq hl
  obtain ⟨ctx', hcalm', hopen⟩ := @openAfter_behind_quoted source l blank q f { s with context := ctx } h.quote h.block
    hcalm hl hk _ hc
  rw [hstep]
  dsimp only
  rw [hopen, span_quoted]
  refine ⟨rfl, hcalm', h.closed, rfl, h.quote, h.block, ?_, Plain.drop_line hahead⟩
  exact LineCursor.nextLine_of_sameLine (LineCursor.sameLine_within 2)

lemma InQuote.readLines_keeps (h : s.InQuote source q f number start ls) (hl : ∀ l ∈ ls, Flush l)
    (hk : ∀ l ∈ ls, beginsBlock true l = false) (fuel : Nat) (hfuel : ls.length < fuel) :
    ∃ ctx, Calm ctx ∧ s.readLines Plain.grammar source fuel =
      let r := closeFrames Plain.grammar source ctx [q, { f with lines := f.lines ++ quotedSpans start ls }]
      { context := r.1, cursor := (s.readLines Plain.grammar source fuel).cursor, closed := r.2, frames := [] } := by
  induction ls generalizing s f number start fuel with
  | nil =>
    cases fuel with
    | zero => simp at hfuel
    | succ fuel =>
      refine ⟨s.context, h.calm, ?_⟩
      rw [readLines, h.frames, List.isEmpty_cons, if_neg Bool.false_ne_true, h.cursor, List.map_nil,
        LineCursor.peek?_front_nil]
      simp only [finish, h.frames, h.closed, quotedSpans, List.append_nil, List.nil_append]
  | cons l ls ih =>
    cases fuel with
    | zero => simp at hfuel
    | succ fuel =>
      rw [List.forall_mem_cons] at hl hk
      obtain ⟨hmore, hnext⟩ := h.keeps hl.1 hk.1
      obtain ⟨ctx, hcalm, hread⟩ := ih hnext hl.2 hk.2 fuel (by simpa using hfuel)
      refine ⟨ctx, hcalm, ?_⟩
      rw [readLines_of_step hmore]
      simpa [Frame.addLine, quotedSpans] using hread

end BlockState

end

/-! ### Tables and definitions -/

lemma Span.Covers.value_trimmed {source t : Bytes} {s : Span} (h : s.Covers source t) :
    ((s.trimLeft source).trimRight source).value source =
      Bytes.trimRight Bytes.isSpace (t.dropWhile Bytes.isSpace) := by
  have hsplit : t = t.takeWhile Bytes.isSpace ++ t.dropWhile Bytes.isSpace := List.takeWhile_append_dropWhile.symm
  have hhead : ∀ c ∈ (t.dropWhile Bytes.isSpace).head?, Bytes.isSpace c = false := by
    intro c hc
    have hnot := List.head?_dropWhile_not Bytes.isSpace t
    rw [Option.mem_def] at hc
    rwa [hc] at hnot
  rw [hsplit] at h
  have hleft := h.trimLeft (fun c hc => List.mem_takeWhile_imp hc) hhead
  generalize t.dropWhile Bytes.isSpace = u at hleft
  have hkept : Bytes.trimRight Bytes.isSpace u <+: u := by
    rw [Bytes.trimRight_eq_rdropWhile]
    exact List.rdropWhile_prefix _ _
  rw [Span.trimRight, hleft.slice_eq, hleft.padding]
  generalize Bytes.trimRight Bytes.isSpace u = w at hkept
  obtain ⟨r, rfl⟩ := hkept
  cases w with
  | nil => simp [Span.value, Bytes.slice, Bytes.spaces]
  | cons b w => exact (Span.Covers.part (a := []) hleft).value_eq

namespace Table

variable {source source' : Bytes} {s s' : Span} {t : Bytes}

lemma length_cellsFrom (alignments : List Alignment) (header : Bool) (fuel : Nat) (previous : Option UInt8)
    (start start' : Nat) (line : Bytes) :
    (cellsFrom source alignments header fuel previous start line).1.length =
      (cellsFrom source' alignments header fuel previous start' line).1.length := by
  induction fuel generalizing alignments previous start start' line with
  | zero => simp [cellsFrom]
  | succ fuel ih =>
    cases line with
    | nil => simp [cellsFrom]
    | cons b line =>
      have hnext := ih alignments.tail (some (byte '|')) (start + (cellLength previous false 0 (b :: line)).1 + 1)
        (start' + (cellLength previous false 0 (b :: line)).1 + 1)
        ((b :: line).drop ((cellLength previous false 0 (b :: line)).1 + 1))
      cases alignments with
      | nil =>
        cases header with
        | false => simp [cellsFrom]
        | true => simpa [cellsFrom] using hnext
      | cons a alignments => simpa [cellsFrom] using hnext

lemma length_row (h : s.Covers source t) (h' : s'.Covers source' t) (alignments : List Alignment) (header : Bool) :
    (row source alignments header s).1.length = (row source' alignments header s').1.length := by
  have hcells := @length_cellsFrom source source'
  rw [row, row, h.value_trimmed, h'.value_trimmed]
  generalize Bytes.trimRight Bytes.isSpace (t.dropWhile Bytes.isSpace) = u
  simp only [List.length_append, List.length_replicate]
  cases u with
  | nil => simp only [hcells _ _ _ _ _ (s'.trimLeft source' |>.trimRight source').start]
  | cons b u =>
    by_cases hb : (b == byte '|') = true
    · simp only [hb, if_true, hcells _ _ _ _ _ ((s'.trimLeft source' |>.trimRight source').start + 1)]
    · simp only [hb, Bool.false_eq_true, if_false, hcells _ _ _ _ _ (s'.trimLeft source' |>.trimRight source').start]

lemma isSome_search? {spans spans' : List Span}
    (h : List.Forall₂ (fun s s' => ∃ t, s.Covers source t ∧ s'.Covers source' t) spans spans') (seen seen' : List Span)
    (hs : s.Covers source t) (hs' : s'.Covers source' t) :
    (search? source seen s spans).isSome = (search? source' seen' s' spans').isSome := by
  induction h generalizing seen seen' s s' t with
  | nil => rfl
  | @cons r r' spans spans' hr h ih =>
    obtain ⟨u, hr, hr'⟩ := hr
    have hlen := fun alignments => length_row hs hs' alignments true
    simp only [search?, hr.value_eq, hr'.value_eq, hlen]
    cases alignments? u with
    | none => exact ih _ _ hr hr'
    | some alignments =>
      simp only
      split <;> rfl

lemma isSome_find? {spans spans' : List Span}
    (h : List.Forall₂ (fun s s' => ∃ t, s.Covers source t ∧ s'.Covers source' t) spans spans') :
    (find? source spans).isSome = (find? source' spans').isSome := by
  cases h with
  | nil => rfl
  | cons hs h =>
    obtain ⟨t, hs, hs'⟩ := hs
    exact isSome_search? h _ _ hs hs'

end Table

lemma readDefinitions_text {l : TextLine} {lines : List TextLine} {b : UInt8} {x : Bytes} (hp : l.span.padding = 0)
    (hl : l.text = b :: x) (hb : Bytes.isSpace b = false) (hne : b ≠ byte '[') (n : Nat) :
    readDefinitions (l :: lines) n (.ofLines (l :: lines)) = [] := by
  have hpeek : (TextCursor.ofLines (l :: lines)).peek? = some (b :: x) := by
    simp [TextCursor.ofLines, TextCursor.atLine, TextCursor.peek?, TextCursor.atEnd, hp, hl, Bytes.spaces]
  have hskip : (TextCursor.ofLines (l :: lines)).skipSpaces.1 = .ofLines (l :: lines) := by
    rw [TextCursor.skipSpaces]
    generalize (TextCursor.ofLines (l :: lines)).line.length + _ = fuel
    cases fuel with
    | zero => rfl
    | succ fuel => simp [TextCursor.skipSpaces.go, hpeek, hb]
  cases n with
  | zero => rfl
  | succ n =>
    have hnone : readDefinition? (l :: lines) (.ofLines (l :: lines)) = none := by
      simp only [readDefinition?, hskip, hpeek, Option.bind_eq_bind, Option.bind_some, measure_cons hb]
      simp [guard, hne]
    rw [readDefinitions, hnone]

/-! ### Text behind markers -/

structure Marked (source : Bytes) (s : Span) (l : Bytes) : Prop where
  covers : s.Covers source (l ++ [Bytes.newline])
  unindented : Inline.indentation ⟨s, Bytes.slice source s.start s.stop, (source.take s.start).reverse⟩ = []

/-- The lines of a text, each behind a marker and all but the last with the line feed. -/
inductive MarkedText (source : Bytes) : List Span → List Bytes → Prop
  | last {s : Span} {l : Bytes} (h : s.Covers source l)
      (hi : Inline.indentation ⟨s, Bytes.slice source s.start s.stop, (source.take s.start).reverse⟩ = []) :
      MarkedText source [s] [l]
  | more {s : Span} {l : Bytes} {spans : List Span} {ls : List Bytes} (h : Marked source s l)
      (hs : MarkedText source spans ls) : MarkedText source (s :: spans) (l :: ls)

section

variable {source : Bytes} {spans : List Span} {ls : List Bytes}

lemma markedText_trimLines (h : List.Forall₂ (Marked source) spans ls) (hl : ∀ l ∈ ls, Flush l) (hne : ls ≠ [])
    (hlast : ∀ l ∈ ls.getLast?, ∀ b ∈ l.getLast?, Bytes.isSpace b = false) :
    MarkedText source (trimLines source spans) ls := by
  induction h with
  | nil => contradiction
  | @cons s l spans ls hs h ih =>
    rw [List.forall_mem_cons] at hl
    have hleft := hl.1.trimLeft hs.covers
    cases h with
    | nil =>
      have hright := hs.covers.trimRight (fun c hc => by rw [List.mem_singleton.mp hc]; rfl)
        (hlast l rfl) hl.1.ne_nil
      have hstart : (s.trimRight source).start = s.start := by
        rw [Span.trimRight]
        split <;> rfl
      rw [show trimLines source [s] = [s.trimRight source] by simp [trimLines, hleft]]
      refine .last hright ?_
      have hi := hs.unindented
      rw [Inline.indentation] at hi ⊢
      rwa [hstart]
    | cons h' h =>
      rw [Plain.trimLines_cons s (List.cons_ne_nil _ _), hleft]
      rw [List.getLast?_cons_cons] at hlast
      exact .more hs (ih hl.2 (List.cons_ne_nil _ _) hlast)

lemma forall₂_meet {α β γ : Type} {r : α → γ → Prop} {p : β → γ → Prop} {q : α → β → Prop} {as : List α} {bs : List β}
    {cs : List γ} (h : List.Forall₂ r as cs) (h' : List.Forall₂ p bs cs) (hq : ∀ {a b c}, r a c → p b c → q a b) :
    List.Forall₂ q as bs := by
  induction h generalizing bs with
  | nil =>
    cases h'
    exact .nil
  | cons hr _ ih =>
    cases h' with
    | cons hp hps => exact .cons (hq hr hp) (ih hps)

lemma covers_lineSpans {start : Nat} (h : source.drop start = Bytes.unlines ls) :
    List.Forall₂ (fun s l => s.Covers source (l ++ [Bytes.newline])) (lineSpans start ls) ls := by
  induction ls generalizing start with
  | nil => exact .nil
  | cons l ls ih =>
    have hcover := LineCursor.span_front_covers 0 h
    rw [span_front] at hcover
    exact .cons hcover (ih (Plain.drop_line h))

variable {b : UInt8} {x : Bytes} {f : Frame} {blank : Bool}

lemma closeFrame_text (h : List.Forall₂ (fun s l => s.Covers source (l ++ [Bytes.newline])) spans ((b :: x) :: ls)) (hb : Bytes.isSpace b = false)
    (hne : b ≠ byte '[') (htable : Table.find? source spans = none) (ctx : BlockContext) :
    closeFrame Plain.grammar source ctx ⟨.paragraph, blank, spans, []⟩ =
      (ctx, [.mk { kind := .paragraph, lines := trimLines source spans, blankBefore := blank } []]) := by
  cases h with
  | @cons s _ spans _ hs h =>
    have hdefs : ∀ n, readDefinitions (textLines source (s :: spans)) n (.ofLines (textLines source (s :: spans))) = [] :=
      readDefinitions_text hs.padding hs.slice_eq hb hne
    have htables : Plain.grammar.tables = true := rfl
    simp only [closeFrame, settleParagraph, hdefs, removeDefinitions, List.foldl_nil, htables, if_true, htable]

lemma keepsText_eq (hb : Bytes.isSpace b = false) (hne : b ≠ byte '[') :
    keepsText (Bytes.unlines ((b :: x) :: ls)) (lineSpans 0 ((b :: x) :: ls)) =
      (Table.find? (Bytes.unlines ((b :: x) :: ls)) (lineSpans 0 ((b :: x) :: ls))).isNone := by
  have hlines := @covers_lineSpans (Bytes.unlines ((b :: x) :: ls)) ((b :: x) :: ls) 0 rfl
  have hdefs : ∀ n, readDefinitions (textLines (Bytes.unlines ((b :: x) :: ls)) (lineSpans 0 ((b :: x) :: ls))) n
      (.ofLines (textLines (Bytes.unlines ((b :: x) :: ls)) (lineSpans 0 ((b :: x) :: ls)))) = [] := by
    cases hlines with
    | cons hs _ => exact readDefinitions_text hs.padding hs.slice_eq hb hne
  simp only [keepsText, hdefs, removeDefinitions]
  rfl

lemma find?_of_staysParagraph (hstays : StaysParagraph ((b :: x) :: ls)) (hb : Bytes.isSpace b = false)
    (hne : b ≠ byte '[') (h : List.Forall₂ (Marked source) spans ((b :: x) :: ls)) :
    Table.find? source spans = none := by
  have hlines := @covers_lineSpans (Bytes.unlines ((b :: x) :: ls)) ((b :: x) :: ls) 0 rfl
  have hsame : List.Forall₂ (fun s s' => ∃ t, s.Covers source t ∧ s'.Covers (Bytes.unlines ((b :: x) :: ls)) t) spans
      (lineSpans 0 ((b :: x) :: ls)) :=
    forall₂_meet h hlines fun hs hs' => ⟨_, hs.covers, hs'⟩
  rw [← Option.isNone_iff_eq_none, ← Option.not_isSome, Table.isSome_find? hsame, Option.not_isSome,
    ← keepsText_eq hb hne]
  exact hstays.text

end

lemma indentation_eq_nil {l : TextLine} {b : UInt8} {x : Bytes} (h : l.before = byte ' ' :: b :: x)
    (hb : Bytes.isSpace b = false) : Inline.indentation l = [] := by
  have hs : b ≠ byte ' ' := by rintro rfl; cases hb
  have ht : b ≠ byte '\t' := by rintro rfl; cases hb
  have hn : b ≠ Bytes.newline := by rintro rfl; cases hb
  simp [Inline.indentation, h, hs, ht, hn]

def Node.nest : List Info → Node → Node
  | [], n => n
  | i :: outer, n => .mk i [nest outer n]

section

variable {source : Bytes} {start : Nat} {l : Bytes} {ls : List Bytes}

lemma marked_quoted (hl : Flush l) (h : source.drop start = Bytes.unlines (quotedLine l :: ls)) :
    Marked source (quotedSpan start l) l := by
  refine ⟨?_, indentation_eq_nil (x := (source.take start).reverse) ?_ (show Bytes.isSpace (byte '>') = false from rfl)⟩
  · rw [← @span_quoted l 0 start ls]
    exact (LineCursor.sees_within (a := [byte '>', byte ' ']) 0 hl h).covers
  · have htake : source.take (start + 2) = source.take start ++ [byte '>', byte ' '] := by
      rw [List.take_add, h]
      rfl
    simp [quotedSpan, htake]

lemma marked_quotedSpans (hl : ∀ l ∈ ls, Flush l) (h : source.drop start = Bytes.unlines (ls.map quotedLine)) :
    List.Forall₂ (Marked source) (quotedSpans start ls) ls := by
  induction ls generalizing start with
  | nil => exact .nil
  | cons l ls ih =>
    rw [List.forall_mem_cons] at hl
    rw [List.map_cons] at h
    exact .cons (marked_quoted hl.1 h) (ih hl.2 (Plain.drop_line h))

lemma closeFrames_quoted {b : UInt8} {x : Bytes} {spans : List Span} (h : List.Forall₂ (Marked source) spans ((b :: x) :: ls))
    (hb : Bytes.isSpace b = false) (hne : b ≠ byte '[') (htable : Table.find? source spans = none) (ctx : BlockContext)
    (blank blank' : Bool) :
    closeFrames Plain.grammar source ctx [⟨.blockquote, blank, [], []⟩, ⟨.paragraph, blank', spans, []⟩] =
      (ctx, [.nest [{ kind := .blockquote, blankBefore := blank }]
        (.mk { kind := .paragraph, lines := trimLines source spans, blankBefore := blank' } [])]) := by
  have hinner : closeFrames Plain.grammar source ctx [⟨.paragraph, blank', spans, []⟩] =
      closeFrame Plain.grammar source ctx ⟨.paragraph, blank', spans, []⟩ := rfl
  rw [closeFrames, hinner, closeFrame_text (h.imp fun _ _ hs => hs.covers) hb hne htable]
  rfl

open BlockState in
/-- Lines that stay a paragraph at the margin are the only paragraph of a block quote when each stands behind its
marker. -/
theorem readBlocks_quoted (hn : ∀ m ∈ l :: ls, Bytes.newline ∉ m) (hl : ∀ m ∈ l :: ls, Flush m)
    (ht : Plain.triggered (l ++ [Bytes.newline]) = []) (hstays : StaysParagraph (l :: ls))
    (hlast : ∀ m ∈ (l :: ls).getLast?, ∀ b ∈ m.getLast?, Bytes.isSpace b = false) (names : MarkdownAttributes) :
    let source := Bytes.unlines ((l :: ls).map quotedLine)
    ∃ blank spans ctx, MarkedText source spans (l :: ls) ∧ ctx.footnotes = [] ∧
      readBlocks Plain.grammar names source =
        ([.nest [{ kind := .blockquote, blankBefore := blank }]
          (.mk { kind := .paragraph, lines := spans, blankBefore := blank } [])], ctx) := by
  intro source
  have hlines : ∀ m ∈ (l :: ls).map quotedLine, Bytes.newline ∉ m := by
    intro m hm
    obtain ⟨k, hk, rfl⟩ := List.mem_map.mp hm
    rintro (_ | ⟨_, _ | ⟨_, hmem⟩⟩)
    exact hn k hk hmem
  have hlen : (Bytes.lines source).length = ls.length + 1 := by
    rw [Bytes.lines_unlines hlines, List.length_map, List.length_map, List.length_cons]
  obtain ⟨blank, hread⟩ := @readLines_first source 0 0 (quotedLine l) (ls.map quotedLine)
    { context := { names := names }, cursor := .front 0 0 ((l :: ls).map quotedLine) } rfl rfl rfl (ls.length + 1)
  have hmarked := @marked_quotedSpans source 0 (l :: ls) hl rfl
  rw [List.forall_mem_cons] at hl hn
  obtain ⟨b, x, rfl, hb⟩ := hl.1.exists_cons
  have hbracket : b ≠ byte '[' := by rintro rfl; cases ht
  have hopen := @run_quoted source (b :: x) 0 0 (ls.map quotedLine) { names := names } blank hl.1 hn.1 ht rfl
    (2 * (LineCursor.front 0 0 (quotedLine (b :: x) :: ls.map quotedLine)).rest.length)
  rw [openAfter_nil] at hread
  dsimp only at hread hopen
  rw [hopen] at hread
  dsimp only at hread
  rw [List.isEmpty_cons, if_neg Bool.false_ne_true] at hread
  have hin : InQuote source
      { context := { names := names },
        cursor := (LineCursor.within 0 0 (quotedLine (b :: x)) (ls.map quotedLine) 2).toLastByte.nextLine,
        closed := [],
        frames := [⟨.blockquote, blank, [], []⟩, ⟨.paragraph, blank, [quotedSpan 0 (b :: x)], []⟩] }
      ⟨.blockquote, blank, [], []⟩ ⟨.paragraph, blank, [quotedSpan 0 (b :: x)], []⟩ 1 ((b :: x).length + 3) ls := by
    refine ⟨⟨rfl, rfl⟩, rfl, rfl, rfl, rfl, ?_, ?_⟩
    · have hnext := LineCursor.nextLine_of_sameLine
        (@LineCursor.sameLine_toLastByte_within [byte '>', byte ' '] (b :: x) 0 0 (ls.map quotedLine))
      rw [Nat.zero_add, Nat.zero_add] at hnext
      exact hnext
    · have hdrop := @Plain.drop_line source 0 (quotedLine (b :: x)) (ls.map quotedLine) rfl
      rw [Nat.zero_add] at hdrop
      exact hdrop
  obtain ⟨ctx, hcalm, hkeeps⟩ := hin.readLines_keeps hl.2 (fun m hm => (hstays.later m hm).2) (ls.length + 1)
    (Nat.lt_succ_self _)
  have hspans : [quotedSpan 0 (b :: x)] ++ quotedSpans ((b :: x).length + 3) ls = quotedSpans 0 ((b :: x) :: ls) := by
    rw [quotedSpans, Nat.zero_add]
    rfl
  have htable := find?_of_staysParagraph hstays hb hbracket hmarked
  rw [hspans, closeFrames_quoted hmarked hb hbracket htable] at hkeeps
  rw [span_quoted, hkeeps] at hread
  refine ⟨blank, _, ctx, markedText_trimLines hmarked (List.forall_mem_cons.mpr hl) (List.cons_ne_nil _ _) hlast,
    hcalm.footnotes, ?_⟩
  rw [readBlocks, hlen, LineCursor.ofSource_unlines hlines]
  rw [hread]

end

end MarkdownTidy
