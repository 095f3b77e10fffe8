import MarkdownTidy.Proofs.Document.LinkTarget
import MarkdownTidy.Proofs.Document.TopLevel
import MarkdownTidy.Proofs.Plain.Reading

/-! Lines that stay one paragraph: which lines begin a block of their own is a matter of each line alone, and
the document is a single paragraph exactly when none of them does. -/

namespace MarkdownTidy

namespace Opening

/-! ### What a rule makes of a line -/

section

variable {c d : LineCursor} (hr : c.rest = d.rest)
  (hc : Indent.measure d.rest c.column = Indent.measure d.rest d.column)
include hr

lemma isSome_setextHeading (place : Place) : (setextHeading place c).isSome = (setextHeading place d).isSome := by
  simp only [setextHeading, hr]
  split
  · rw [Option.isSome_map, Option.isSome_map]
  · rfl

lemma isSome_list (place : Place) : (list place c).isSome = (list place d).isSome := by
  simp only [list, hr]
  split
  · rfl
  · split <;> rfl

include hc

lemma isSome_thematicBreak : (thematicBreak c).isSome = (thematicBreak d).isSome := by
  have hsame : isThematicBreak c.rest c.column = isThematicBreak d.rest d.column := by
    simp only [isThematicBreak, hr, hc]
  simp only [thematicBreak, hsame]
  split <;> rfl

lemma isSome_atxHeading : (atxHeading c).isSome = (atxHeading d).isSome := by
  simp only [atxHeading, blockOffset?, hr, hc]
  split
  · rfl
  · split_ifs <;> rfl

lemma isSome_fencedCode : (fencedCode c).isSome = (fencedCode d).isSome := by
  simp only [fencedCode, blockOffset?, hr, hc]
  split
  · rfl
  · split
    · rfl
    · split_ifs <;> rfl

lemma isSome_blockquote : (blockquote c).isSome = (blockquote d).isSome := by
  simp only [blockquote, quoteMarker?, hr, hc, Option.isSome_map]
  split_ifs
  · rfl
  · split
    · split_ifs <;> rfl
    · rfl

lemma isSome_html (place : Place) : (html place c).isSome = (html place d).isSome := by
  simp only [html, blockOffset?, hr, hc]
  split
  · rfl
  · rw [Option.isSome_map, Option.isSome_map]

end

end Opening

structure LineCursor.Sees (source : Bytes) (c : LineCursor) (l : Bytes) : Prop where
  rest : c.rest = l ++ [Bytes.newline]
  measure : Indent.measure (l ++ [Bytes.newline]) c.column = Indent.measure (l ++ [Bytes.newline]) 0
  covers : c.span.Covers source (l ++ [Bytes.newline])

lemma LineCursor.sees_front {source : Bytes} {start : Nat} {l : Bytes} {ls : List Bytes} (number : Nat)
    (hs : source.drop start = Bytes.unlines (l :: ls)) : (front number start (l :: ls)).Sees source l :=
  ⟨rest_front_cons, by rw [column_front], span_front_covers number hs⟩

namespace Opening

variable {source : Bytes} {c : LineCursor} {l : Bytes}

lemma slice_line (hs : c.Sees source l) {i n : Nat} (h : i + n ≤ l.length + 1) :
    Bytes.slice source (c.span.start + i) (c.span.start + i + n) = Bytes.slice (l ++ [Bytes.newline]) i (i + n) := by
  obtain ⟨r, hr⟩ := hs.covers.isPrefix
  have hl : (l ++ [Bytes.newline]).length = l.length + 1 := by simp
  rw [Bytes.slice, Bytes.slice, ← List.drop_drop, ← hr, Nat.add_sub_cancel_left, Nat.add_sub_cancel_left,
    List.drop_append_of_le_length (by omega), List.take_append_of_le_length (by rw [List.length_drop]; omega)]

lemma isSome_footnote (hs : c.Sees source l) :
    (footnote source c).isSome = (footnote (l ++ [Bytes.newline]) (.front 0 0 [l])).isSome := by
  have hbase : c.span.start - c.padding = c.span.start := by
    rw [show c.padding = 0 from hs.covers.padding, Nat.sub_zero]
  have hbase' : (LineCursor.front 0 0 [l]).span.start - (LineCursor.front 0 0 [l]).padding = 0 := rfl
  simp only [footnote, blockOffset?, hs.rest, hs.measure, LineCursor.rest_front_cons, LineCursor.column_front, hbase,
    hbase']
  split
  · rfl
  · rename_i pos hpos
    split_ifs
    · rfl
    · split
      · rename_i n hn
        obtain ⟨x, r, hx, rfl, -⟩ := searchLine_found (by decide) hn
        have hlen := congrArg List.length hx
        simp only [List.length_drop, List.length_append, List.length_cons, List.length_nil] at hlen
        simp only [Nat.add_assoc _ pos 2, slice_line hs (by omega : pos + 2 + x.length ≤ _), Nat.zero_add]
        split_ifs <;> rfl
      · rfl

lemma try_line {holder : Holder} (hh : ∀ n, holder ≠ .list n) (behind : Bool) {ctx ctx' : BlockContext}
    (hctx : ctx.atNewItem = false) (hctx' : ctx'.atNewItem = false) (hs : c.Sees source l) {r : BlockRule}
    (hr : r ∈ Plain.grammar.block) (ht : r.triggers?.isSome = true) :
    (try_ source ⟨holder, false, behind, behind⟩ ctx c r).2.isSome =
      (try_ (l ++ [Bytes.newline]) ⟨.document, false, behind, behind⟩ ctx' (.front 0 0 [l]) r).2.isSome := by
  have hrest : c.rest = (LineCursor.front 0 0 [l]).rest := by rw [hs.rest, LineCursor.rest_front_cons]
  have hmeasure : Indent.measure (LineCursor.front 0 0 [l]).rest c.column =
      Indent.measure (LineCursor.front 0 0 [l]).rest (LineCursor.front 0 0 [l]).column := by
    rw [LineCursor.rest_front_cons, LineCursor.column_front, hs.measure]
  simp only [Plain.grammar_block, List.mem_cons, List.not_mem_nil, or_false] at hr
  rcases hr with rfl | rfl | rfl | rfl | rfl | rfl | rfl | rfl | rfl | rfl | rfl <;>
    simp only [BlockRule.triggers?, Option.isSome_none, Bool.false_eq_true] at ht
  · exact isSome_setextHeading hrest ⟨.document, false, behind, behind⟩
  · exact isSome_thematicBreak hrest hmeasure
  · have hlist := isSome_list hrest ⟨.document, false, behind, behind⟩
    have hsame : list ⟨holder, false, behind, behind⟩ c = list ⟨.document, false, behind, behind⟩ c := rfl
    simp only [try_, hctx, hctx', hsame, Bool.or_self, Bool.false_eq_true, if_false]
    revert hlist
    rcases list ⟨.document, false, behind, behind⟩ c with _ | o <;>
      rcases list ⟨.document, false, behind, behind⟩ (.front 0 0 [l]) with _ | o' <;> simp
  · have hnone : ∀ (h : Holder) d, (∀ n, h ≠ .list n) → listItem ⟨h, false, behind, behind⟩ d = none := by
      intro h d hh
      cases h with
      | list n => exact absurd rfl (hh n)
      | document => rfl
      | other => rfl
    simp only [try_, hnone holder c hh, hnone .document _ (by simp)]
  · exact isSome_atxHeading hrest hmeasure
  · exact isSome_fencedCode hrest hmeasure
  · exact isSome_blockquote hrest hmeasure
  · exact isSome_html hrest hmeasure ⟨.document, false, behind, behind⟩
  · exact isSome_footnote hs

end Opening

structure Calm (ctx : BlockContext) : Prop where
  atNewItem : ctx.atNewItem = false
  footnotes : ctx.footnotes = []

lemma Calm.passes {ctx ctx' : BlockContext} (h : Calm ctx) (hp : ctx.Passes ctx') : Calm ctx' := by
  refine ⟨?_, hp.footnotes.trans h.footnotes⟩
  rw [Bool.eq_false_iff]
  exact fun hnew => Bool.false_ne_true (h.atNewItem.symm.trans (hp.atNewItem hnew))

namespace Opening

variable {source : Bytes} {place : Place} {c : LineCursor} {l : Bytes}

lemma firstOf_line {holder : Holder} (hh : ∀ n, holder ≠ .list n) (behind : Bool) (hs : c.Sees source l)
    {rs : List BlockRule} (hr : ∀ r ∈ rs, r ∈ Plain.grammar.block ∧ r.triggers?.isSome = true)
    {ctx ctx' : BlockContext} (hctx : Calm ctx) (hctx' : Calm ctx') :
    (firstOf source ⟨holder, false, behind, behind⟩ c ctx rs).2.isSome =
      (firstOf (l ++ [Bytes.newline]) ⟨.document, false, behind, behind⟩ (.front 0 0 [l]) ctx' rs).2.isSome := by
  induction rs generalizing ctx ctx' with
  | nil => rfl
  | cons r rs ih =>
    rw [List.forall_mem_cons] at hr
    have hsome := try_line hh behind hctx.atNewItem hctx'.atNewItem hs hr.1.1 hr.1.2
    have hcalm := hctx.passes (.try_ ctx source ⟨holder, false, behind, behind⟩ c r)
    have hcalm' := hctx'.passes (.try_ ctx' (l ++ [Bytes.newline]) ⟨.document, false, behind, behind⟩ (.front 0 0 [l]) r)
    rw [firstOf, firstOf]
    revert hsome hcalm hcalm'
    rcases try_ source ⟨holder, false, behind, behind⟩ ctx c r with ⟨ctx₁, _ | o⟩ <;>
      rcases try_ (l ++ [Bytes.newline]) ⟨.document, false, behind, behind⟩ ctx' (.front 0 0 [l]) r with ⟨ctx₂, _ | o'⟩ <;>
      intro hsome hcalm hcalm'
    · exact ih hr.2 hcalm hcalm'
    · cases hsome
    · cases hsome
    · rfl

lemma firstOf_append (c : LineCursor) (ctx : BlockContext) (rs rs' : List BlockRule) :
    firstOf source place c ctx (rs ++ rs') =
      match firstOf source place c ctx rs with
      | (ctx', some o) => (ctx', some o)
      | (ctx', none) => firstOf source place c ctx' rs' := by
  induction rs generalizing ctx with
  | nil => rfl
  | cons r rs ih =>
    rw [List.cons_append, firstOf, firstOf]
    rcases try_ source place ctx c r with ⟨ctx₁, _ | o⟩
    · exact ih ctx₁
    · rfl

end Opening

/-! ### Lines that begin a block -/

def Place.top (behind : Bool) : Place := ⟨.document, false, behind, behind⟩

def lineRules (l : Bytes) : List BlockRule :=
  if (Indent.measure (l ++ [Bytes.newline]) 0).1 ≤ 3 then
    Plain.triggered ((l ++ [Bytes.newline]).drop (Indent.measure (l ++ [Bytes.newline]) 0).2)
  else []

def beginsBlock (behind : Bool) (l : Bytes) : Bool :=
  (Opening.firstOf (l ++ [Bytes.newline]) (.top behind) (.front 0 0 [l]) { names := .initial } (lineRules l)).2.isSome

def beginsFootnote (l : Bytes) : Bool := (Opening.footnote (l ++ [Bytes.newline]) (.front 0 0 [l])).isSome

lemma mem_lineRules {l : Bytes} {r : BlockRule} (h : r ∈ lineRules l) :
    r ∈ Plain.grammar.block ∧ r.triggers?.isSome = true := by
  rw [lineRules] at h
  split at h
  · obtain ⟨hm, -, -, t, ht, -⟩ := Plain.triggers?_isSome_of_mem h
    exact ⟨hm, by simp [ht]⟩
  · cases h

section

variable {source : Bytes} {number start : Nat} {l : Bytes} {ls : List Bytes}

lemma rules_line {s : OpeningState}
    (hm : Indent.measure (l ++ [Bytes.newline]) s.cursor.column = Indent.measure (l ++ [Bytes.newline]) 0)
    (ho : s.opened = []) :
    s.rules Plain.grammar (l ++ [Bytes.newline]) = lineRules l ++
      if s.continuable then []
      else if (Indent.measure (l ++ [Bytes.newline]) 0).1 ≤ 3 then [.codeBlock, .paragraph] else [.codeBlock] := by
  by_cases hw : (Indent.measure (l ++ [Bytes.newline]) 0).1 ≤ 3
  · rw [Plain.rules_shallow ho (by rwa [hm]), hm, lineRules]
    simp [hw]
  · rw [Plain.rules_deep (by rw [hm]; omega), lineRules, ho]
    simp [hw]

lemma isSome_firstOf_line {ctx : BlockContext} (hctx : Calm ctx) (behind : Bool) (number : Nat)
    (hs : source.drop start = Bytes.unlines (l :: ls)) :
    (Opening.firstOf source (.top behind) (.front number start (l :: ls)) ctx (lineRules l)).2.isSome =
      beginsBlock behind l :=
  Opening.firstOf_line (by simp) behind (LineCursor.sees_front number hs) (fun _ => mem_lineRules) hctx ⟨rfl, rfl⟩

lemma grade_of_firstOf {place : Place} {ctx ctx' : BlockContext} {rs : List BlockRule} {o : Opened} (hn : beginsFootnote l = false)
    (hs : source.drop start = Bytes.unlines (l :: ls)) (hr : ∀ r ∈ rs, r ∈ Plain.grammar.block)
    (h : Opening.firstOf source place (.front number start (l :: ls)) ctx rs = (ctx', some o)) :
    o.block.grade = .solid ∨ o.block.grade = .paragraph ∧ BlockRule.paragraph ∈ rs := by
  obtain ⟨r, hmem, ctx₁, ht⟩ := Opening.exists_of_firstOf h
  have hg := (Opening.opens_of_try ht).leaves.grade
  have hb := hr r hmem
  simp only [Plain.grammar_block, List.mem_cons, List.not_mem_nil, or_false] at hb
  rcases hb with rfl | rfl | rfl | rfl | rfl | rfl | rfl | rfl | rfl | rfl | rfl
  case inr.inr.inr.inr.inr.inr.inr.inr.inr.inl =>
    rw [Opening.try_, Prod.mk.injEq] at ht
    have hsome := Opening.isSome_footnote (LineCursor.sees_front number hs)
    rw [ht.2, show (Opening.footnote (l ++ [Bytes.newline]) (.front 0 0 [l])).isSome = false from hn] at hsome
    cases hsome
  case inr.inr.inr.inr.inr.inr.inr.inr.inr.inr => exact .inr ⟨hg, hmem⟩
  all_goals exact .inl hg

end

namespace OpeningState

variable {g : Grammar} {source : Bytes} {blank : Bool} {s : OpeningState}

def Begun (s : OpeningState) : Prop :=
  headGrade s.opened = some .solid ∨ s.settled.isSome = true ∧ s.continuable = false

lemma Steps.begun {r : Bool × OpeningState} (hr : Steps g source blank s r) (h : s.Begun) : r.2.Begun := by
  rcases h with h | ⟨hs, hc⟩
  · exact .inl (headGrade_eq_of_isPrefix hr.opened h)
  · refine .inr ?_
    cases hr with
    | ended | silent | opens => exact ⟨hs, hc⟩
    | defines | underlines => exact ⟨rfl, rfl⟩

lemma Begun.run (h : s.Begun) (fuel : Nat) : (s.run g source blank fuel).Begun :=
  run_induction Steps.begun h fuel

lemma run_silent {line : Bytes} (hl : s.cursor.peek? = some line) (hctx : Calm s.context)
    (hf : (Opening.firstOf source s.place s.cursor s.context (s.rules g line)).2.isSome = false) (fuel : Nat) :
    ∃ ctx', Calm ctx' ∧ s.run g source blank (fuel + 1) = { s with context := ctx' } := by
  have hcalm := hctx.passes (.firstOf s.context source s.place s.cursor (s.rules g line))
  rw [run, hl]
  dsimp only
  split
  · exact ⟨_, hctx, rfl⟩
  · generalize Opening.firstOf source s.place s.cursor s.context (s.rules g line) = found at hf hcalm
    obtain ⟨ctx', _ | o⟩ := found
    · exact ⟨ctx', hcalm, rfl⟩
    · cases hf

lemma run_begun {line : Bytes} {ctx : BlockContext} {o : Opened} (hl : s.cursor.peek? = some line)
    (hn : line.head? ≠ some Bytes.newline) (ho : s.opened = [])
    (hf : Opening.firstOf source s.place s.cursor s.context (s.rules g line) = (ctx, some o))
    (hg : o.block.grade = .solid) (fuel : Nat) : (s.run g source blank (fuel + 1)).Begun := by
  have hstep : (s.step g source blank).2.Begun := by
    simp only [step, hl, beq_eq_false_iff_ne.mpr hn, hf, Bool.false_eq_true, if_false]
    split
    · split <;> exact .inr ⟨rfl, rfl⟩
    · exact .inl (by simp [push, ho, headGrade, hg])
  rw [run_succ]
  split
  · exact hstep.run fuel
  · exact hstep

lemma run_opens {line : Bytes} {ctx : BlockContext} {o : Opened} (hl : s.cursor.peek? = some line)
    (hn : line.head? ≠ some Bytes.newline) (hlast : s.last = none)
    (hf : Opening.firstOf source s.place s.cursor s.context (s.rules g line) = (ctx, some o)) (fuel : Nat) :
    s.run g source blank (fuel + 1) =
      if o.descend then
        run g source blank fuel ({ s with context := ctx }.push o { block := o.block, blankBefore := blank, lines := o.lines })
      else { s with context := ctx }.push o { block := o.block, blankBefore := blank, lines := o.lines } := by
  rw [run, hl]
  dsimp only
  rw [beq_eq_false_iff_ne.mpr hn, if_neg Bool.false_ne_true, hf]
  dsimp only
  rw [hlast]
  cases o.takesParagraph <;> rfl

end OpeningState

/-! ### Lines behind a paragraph -/

section

variable {source : Bytes} {number start : Nat} {l : Bytes} {ls : List Bytes} {ctx : BlockContext} {f : Frame}
  {blank : Bool}

lemma head?_line (hl : Bytes.newline ∉ l) (hne : l ≠ []) : (l ++ [Bytes.newline]).head? ≠ some Bytes.newline := by
  rw [List.head?_append_of_ne_nil _ hne]
  exact fun h => hl (List.mem_of_head? h)

lemma place_behind (hf : f.block = .paragraph) (c : LineCursor) :
    (OpeningState.start ctx c [] [f]).place = .top true := by
  simp [OpeningState.start, OpeningState.place, Place.top, Holder.ofFrames, hf, OpenBlock.isList,
    OpenBlock.isParagraph]

lemma rules_behind (hf : f.block = .paragraph) :
    (OpeningState.start ctx (.front number start (l :: ls)) [] [f]).rules Plain.grammar (l ++ [Bytes.newline]) =
      lineRules l := by
  have hc : (OpeningState.start ctx (.front number start (l :: ls)) [] [f]).continuable = true := by
    simp [OpeningState.start, hf, OpenBlock.isParagraph]
  rw [rules_line (congrArg _ LineCursor.column_front) rfl, hc, if_pos rfl, List.append_nil]

lemma run_behind (hf : f.block = .paragraph) (hctx : Calm ctx) (hb : beginsBlock true l = false)
    (hs : source.drop start = Bytes.unlines (l :: ls)) (fuel : Nat) :
    ∃ ctx', Calm ctx' ∧ (OpeningState.start ctx (.front number start (l :: ls)) [] [f]).run Plain.grammar source blank
      (fuel + 1) = .start ctx' (.front number start (l :: ls)) [] [f] := by
  have hnone := (isSome_firstOf_line hctx true number hs).trans hb
  rw [← place_behind hf, ← rules_behind hf] at hnone
  exact OpeningState.run_silent (s := .start ctx (.front number start (l :: ls)) [] [f]) LineCursor.peek?_front_cons hctx hnone fuel

lemma run_behind_begun (hf : f.block = .paragraph) (hctx : Calm ctx) (hb : beginsBlock true l = true)
    (hn : beginsFootnote l = false) (hl : Bytes.newline ∉ l) (hs : source.drop start = Bytes.unlines (l :: ls))
    (fuel : Nat) :
    ((OpeningState.start ctx (.front number start (l :: ls)) [] [f]).run Plain.grammar source blank
      (fuel + 1)).Begun := by
  have hsome := isSome_firstOf_line hctx true number hs
  rw [hb] at hsome
  have hne : l ≠ [] := by
    rintro rfl
    cases hb
  rcases hfound : Opening.firstOf source (.top true) (.front number start (l :: ls)) ctx (lineRules l) with ⟨ctx', _ | o⟩
  · rw [hfound] at hsome
    cases hsome
  · have hgrade := grade_of_firstOf hn hs (fun r hr => (mem_lineRules hr).1) hfound
    rw [← place_behind hf, ← rules_behind hf] at hfound
    refine OpeningState.run_begun LineCursor.peek?_front_cons (head?_line hl hne) rfl hfound (hgrade.resolve_right ?_) fuel
    rintro ⟨-, hmem⟩
    exact absurd (mem_lineRules hmem).2 (by decide)

namespace BlockState

variable {s : BlockState}

lemma openAfter_behind (hf : f.block = .paragraph) (hctx : Calm s.context) (hb : beginsBlock true l = false)
    (hs : source.drop start = Bytes.unlines (l :: ls)) :
    ∃ ctx', Calm ctx' ∧ s.openAfter Plain.grammar source blank [] [f] (.front number start (l :: ls)) =
      if Bytes.isBlank l then
        { context := (closeFrames Plain.grammar source ctx' [f]).1, cursor := .front number start (l :: ls),
          closed := s.closed ++ (closeFrames Plain.grammar source ctx' [f]).2, frames := [] }
      else
        { context := ctx', cursor := .front number start (l :: ls), closed := s.closed,
          frames := [f.addLine (LineCursor.front number start (l :: ls)).span] } := by
  obtain ⟨ctx', hcalm, hrun⟩ := run_behind hf hctx hb hs (2 * (LineCursor.front number start (l :: ls)).rest.length + 1)
  refine ⟨ctx', hcalm, ?_⟩
  have hcontinue : continueParagraph? (.front number start (l :: ls)) [f] =
      if Bytes.isBlank l then none else some [f.addLine (LineCursor.front number start (l :: ls)).span] := by
    cases hl : Bytes.isBlank l <;>
      simp [continueParagraph?, hf, OpenBlock.isParagraph, Plain.isBlank_line, hl]
  rw [openAfter, OpeningState.openBlocks_eq_run, hrun]
  simp only [OpeningState.start, List.isEmpty_nil, List.isEmpty_cons, List.getLast?_singleton, Option.map_some, hf,
    OpenBlock.isParagraph, Option.getD_some, Bool.and_self, Bool.false_eq_true, if_true, if_false, hcontinue]
  cases Bytes.isBlank l <;> rfl

lemma openAfter_begun (hf : f.block = .paragraph) (hctx : Calm s.context) (hb : beginsBlock true l = true)
    (hn : beginsFootnote l = false) (hl : Bytes.newline ∉ l) (hs : source.drop start = Bytes.unlines (l :: ls)) :
    Spoiled (s.openAfter Plain.grammar source blank [] [f] (.front number start (l :: ls))).closed
      (s.openAfter Plain.grammar source blank [] [f] (.front number start (l :: ls))).frames := by
  have hbegun := @run_behind_begun source number start l ls s.context f blank hf hctx hb hn hl hs
    (2 * (LineCursor.front number start (l :: ls)).rest.length + 1)
  have hsettles : ((OpeningState.start s.context (.front number start (l :: ls)) [] [f]).run Plain.grammar source blank
      (2 * (LineCursor.front number start (l :: ls)).rest.length + 2)).Settles [f] :=
    (OpeningState.settles_start _ _ _).run _
  rw [openAfter, OpeningState.openBlocks_eq_run]
  generalize (OpeningState.start s.context (.front number start (l :: ls)) [] [f]).run Plain.grammar source blank
    (2 * (LineCursor.front number start (l :: ls)).rest.length + 2) = r at hbegun hsettles
  have hlazy : (r.opened.isEmpty && r.continuable) = false := by
    rcases hbegun with hb | ⟨-, hc⟩
    · cases ho : r.opened with
      | nil => rw [ho] at hb; cases hb
      | cons f fs => rfl
    · rw [hc, Bool.and_false]
  simp only [hlazy, Bool.false_eq_true, if_false, attach, List.getLast?_nil, List.nil_append]
  cases hsettles with
  | pending hs hl =>
    rcases hbegun with hb | ⟨hsome, -⟩
    · exact .inr (.inl hb)
    · rw [hs] at hsome
      cases hsome
  | done hs hl hleft hf hn =>
    simp only [hs]
    exact hn.imp varied_of_mem .inl

end BlockState

/-! ### Lines with nothing open -/

lemma take?_isSome {x : Bytes} {column width : Nat} (h : width ≤ (Indent.measure x column).1) :
    (Indent.take? x column 0 width).isSome = true := by
  have hfinish : ∀ count w, width ≤ w → (Indent.take?.finish 0 width count w).isSome = true := by
    intro count w hw
    simp [Indent.take?.finish, hw]
  have hgo : ∀ x w i j, width ≤ (Indent.measure.go column w i x).1 →
      (Indent.take?.go column 0 width j w 0 x).isSome = true := by
    intro x
    induction x with
    | nil => exact fun w i j h => hfinish _ _ h
    | cons b x ih =>
      intro w i j h
      rw [Indent.measure.go] at h
      rw [Indent.take?.go]
      by_cases hw : w < width
      · simp only [hw, decide_true, Bool.and_true]
        split
        · rename_i ht
          obtain rfl : b = byte '\t' := by simpa using ht
          exact ih _ _ _ h
        · rename_i ht
          split
          · rename_i hs
            rw [if_pos hs] at h
            exact ih _ _ _ h
          · rename_i hs
            rw [if_neg hs, if_neg ht] at h
            exact absurd h (by simpa using hw)
      · simp only [hw, decide_false, Bool.and_false, Bool.false_eq_true, if_false]
        exact hfinish _ _ (by omega)
  rw [Indent.take?]
  split
  · rfl
  · exact hgo x 0 0 0 h

lemma paragraph_line (number : Nat) (hb : Bytes.isBlank l = false) (hs : source.drop start = Bytes.unlines (l :: ls)) :
    Opening.paragraph source (.front number start (l :: ls)) =
      some { block := .paragraph, lines := [(LineCursor.front number start (l :: ls)).span.trimLeft source],
             cursor := .within number start l ls l.length } := by
  have hcover := LineCursor.span_front_covers number hs
  rw [← List.takeWhile_append_dropWhile (p := Bytes.isSpace) (l := l ++ [Bytes.newline])] at hcover
  have hhead := List.head?_dropWhile_not Bytes.isSpace (l ++ [Bytes.newline])
  have htrim := hcover.trimLeft (fun b hb => List.mem_takeWhile_imp hb) (fun b hb => by
    rw [Option.mem_def] at hb
    rwa [hb] at hhead)
  have hne : (l ++ [Bytes.newline]).dropWhile Bytes.isSpace ≠ [] := by
    rw [ne_eq, List.dropWhile_eq_nil_iff]
    intro hall
    have hblank : Bytes.isBlank (l ++ [Bytes.newline]) = true := List.all_eq_true.mpr hall
    rw [Plain.isBlank_line, hb] at hblank
    cases hblank
  have hempty : ((LineCursor.front number start (l :: ls)).span.trimLeft source).isEmpty = false := by
    have hpos := List.length_pos_iff.mpr hne
    simp only [Span.isEmpty, htrim.stop, Bool.and_eq_false_iff]
    left
    simp only [decide_eq_false_iff_not]
    omega
  simp only [Opening.paragraph, Plain.toLastByte_front, hempty, Bool.false_eq_true, if_false]

lemma rules_first : (OpeningState.start ctx (.front number start (l :: ls)) [] []).rules Plain.grammar (l ++ [Bytes.newline]) =
    lineRules l ++ if (Indent.measure (l ++ [Bytes.newline]) 0).1 ≤ 3 then [.codeBlock, .paragraph] else [.codeBlock] :=
  rules_line (congrArg _ LineCursor.column_front) rfl

lemma exists_firstOf (ctx : BlockContext) (number : Nat) (hb : Bytes.isBlank l = false)
    (hs : source.drop start = Bytes.unlines (l :: ls)) :
    ∃ ctx' o, Opening.firstOf source (.top false) (.front number start (l :: ls)) ctx
      (lineRules l ++ if (Indent.measure (l ++ [Bytes.newline]) 0).1 ≤ 3 then [.codeBlock, .paragraph] else [.codeBlock]) =
        (ctx', some o) := by
  rw [Opening.firstOf_append]
  rcases Opening.firstOf source (.top false) (.front number start (l :: ls)) ctx (lineRules l) with ⟨ctx', _ | o⟩
  · simp only
    split
    · simp only [Opening.firstOf, Opening.try_, paragraph_line number hb hs]
      cases Opening.codeBlock (.front number start (l :: ls)) <;> exact ⟨_, _, rfl⟩
    · rename_i hw
      obtain ⟨⟨count, padding⟩, htake⟩ := Option.isSome_iff_exists.mp (take?_isSome (Nat.lt_of_not_le hw))
      have hcode : ∃ o, Opening.codeBlock (.front number start (l :: ls)) = some o := by
        simp only [Opening.codeBlock, LineCursor.rest_front_cons, LineCursor.column_front, htake, Plain.isBlank_line, hb,
          Bool.false_eq_true, if_false]
        exact ⟨_, rfl⟩
      obtain ⟨o, ho⟩ := hcode
      simp only [Opening.firstOf, Opening.try_, ho]
      exact ⟨_, _, rfl⟩
  · exact ⟨_, _, rfl⟩

namespace BlockState

variable {s : BlockState}

lemma openAfter_nil (c : LineCursor) :
    s.openAfter Plain.grammar source blank [] [] c =
      let r := (OpeningState.start s.context c [] []).run Plain.grammar source blank (2 * c.rest.length + 2)
      { context := r.context, cursor := r.cursor, closed := s.closed, frames := r.opened } := by
  have hsettles : ((OpeningState.start s.context c [] []).run Plain.grammar source blank
      (2 * c.rest.length + 2)).Settles [] := (OpeningState.settles_start _ _ _).run _
  rw [openAfter, OpeningState.openBlocks_eq_run]
  generalize (OpeningState.start s.context c [] []).run Plain.grammar source blank (2 * c.rest.length + 2) = r at hsettles
  cases hsettles with
  | pending hs => simp [hs, continueParagraph?, attach, closeFrames]
  | done _ _ hleft => cases hleft

lemma openAfter_opens {o : Opened} (hl : Bytes.newline ∉ l) (hne : l ≠ [])
    (hfound : Opening.firstOf source (.top false) (.front number start (l :: ls)) s.context
      (lineRules l ++ if (Indent.measure (l ++ [Bytes.newline]) 0).1 ≤ 3 then [.codeBlock, .paragraph] else [.codeBlock]) =
        (ctx, some o)) :
    (s.openAfter Plain.grammar source blank [] [] (.front number start (l :: ls))).closed = s.closed ∧
      headGrade (s.openAfter Plain.grammar source blank [] [] (.front number start (l :: ls))).frames =
        some o.block.grade := by
  rw [← rules_first] at hfound
  rw [openAfter_nil, OpeningState.run_opens LineCursor.peek?_front_cons (head?_line hl hne) rfl hfound]
  refine ⟨rfl, ?_⟩
  split
  · exact headGrade_eq_of_isPrefix (OpeningState.opened_run _ _) rfl
  · rfl

lemma openAfter_nothing (hb : Bytes.isBlank l = false) (hn : beginsFootnote l = false) (hl : Bytes.newline ∉ l)
    (hs : source.drop start = Bytes.unlines (l :: ls)) :
    (s.openAfter Plain.grammar source blank [] [] (.front number start (l :: ls))).closed = s.closed ∧
      (headGrade (s.openAfter Plain.grammar source blank [] [] (.front number start (l :: ls))).frames = some .solid ∨
        headGrade (s.openAfter Plain.grammar source blank [] [] (.front number start (l :: ls))).frames =
          some .paragraph) := by
  have hne : l ≠ [] := by
    rintro rfl
    cases hb
  obtain ⟨ctx', o, hfound⟩ := exists_firstOf s.context number hb hs
  have hgrade := grade_of_firstOf hn hs (fun r hr => ?_) hfound
  · rw [(openAfter_opens hl hne hfound).2]
    exact ⟨(openAfter_opens hl hne hfound).1, hgrade.imp (congrArg some) fun h => congrArg some h.1⟩
  · rcases List.mem_append.mp hr with hr | hr
    · exact (mem_lineRules hr).1
    · split at hr <;> revert hr <;> simp [Plain.grammar_block] <;> rintro (rfl | rfl) <;> simp

lemma openAfter_first_begun (hctx : Calm s.context) (hb : beginsBlock false l = true) (hn : beginsFootnote l = false)
    (hl : Bytes.newline ∉ l) (hs : source.drop start = Bytes.unlines (l :: ls)) :
    headGrade (s.openAfter Plain.grammar source blank [] [] (.front number start (l :: ls))).frames = some .solid := by
  have hne : l ≠ [] := by
    rintro rfl
    cases hb
  have hsome := isSome_firstOf_line hctx false number hs
  rw [hb] at hsome
  rcases hfound : Opening.firstOf source (.top false) (.front number start (l :: ls)) s.context (lineRules l) with ⟨ctx', _ | o⟩
  · rw [hfound] at hsome
    cases hsome
  · have hgrade := grade_of_firstOf hn hs (fun r hr => (mem_lineRules hr).1) hfound
    have hmore := @Opening.firstOf_append source (.top false) (.front number start (l :: ls)) s.context
      (lineRules l) (if (Indent.measure (l ++ [Bytes.newline]) 0).1 ≤ 3 then [.codeBlock, .paragraph] else [.codeBlock])
    rw [hfound] at hmore
    rw [(openAfter_opens hl hne hmore).2]
    refine congrArg some (hgrade.resolve_right ?_)
    rintro ⟨-, hmem⟩
    exact absurd (mem_lineRules hmem).2 (by decide)

lemma openAfter_first (hctx : Calm s.context) (hb : beginsBlock false l = false) (hl : Bytes.newline ∉ l)
    (hne : l ≠ []) (hhead : ∀ b ∈ l.head?, Bytes.isSpace b = false) (hs : source.drop start = Bytes.unlines (l :: ls)) :
    ∃ ctx' c', Calm ctx' ∧ (LineCursor.front number start (l :: ls)).SameLine c' ∧
      s.openAfter Plain.grammar source blank [] [] (.front number start (l :: ls)) =
        { context := ctx', cursor := c', closed := s.closed,
          frames := [⟨.paragraph, blank, [(LineCursor.front number start (l :: ls)).span], []⟩] } := by
  have hmargin : ∀ b ∈ (l ++ [Bytes.newline]).head?, b ≠ byte ' ' ∧ b ≠ byte '\t' := by
    intro b hb
    rw [List.head?_append_of_ne_nil _ hne] at hb
    have hb := hhead b hb
    constructor <;> rintro rfl <;> cases hb
  have hmeasure : Indent.measure (l ++ [Bytes.newline]) 0 = (0, 0) := Plain.measure_spaces (k := 0) hmargin
  have hcode : Opening.codeBlock (.front number start (l :: ls)) = none := by
    have htake : Indent.take? (l ++ [Bytes.newline]) 0 0 4 = none := Plain.take?_shallow (k := 0) (by omega) hmargin
    simp only [Opening.codeBlock, LineCursor.rest_front_cons, LineCursor.column_front, htake]
  have hblank : Bytes.isBlank l = false := by
    cases l with
    | nil => contradiction
    | cons b l => simp [Bytes.isBlank, hhead b rfl]
  have htrim : (LineCursor.front number start (l :: ls)).span.trimLeft source =
      (LineCursor.front number start (l :: ls)).span := by
    cases l with
    | nil => contradiction
    | cons b l =>
      rw [Span.trimLeft, (LineCursor.span_front_covers number hs).slice_eq, List.cons_append,
        List.takeWhile_cons_of_neg (by simp [hhead b rfl])]
      rfl
  have hparagraph := paragraph_line number hblank hs
  rw [htrim] at hparagraph
  have hsome := isSome_firstOf_line hctx false number hs
  have hcalm := hctx.passes (.firstOf s.context source (.top false) (.front number start (l :: ls)) (lineRules l))
  rw [hb] at hsome
  rcases hfound : Opening.firstOf source (.top false) (.front number start (l :: ls)) s.context (lineRules l) with ⟨ctx', _ | o⟩
  · have hrules : Opening.firstOf source (.top false) (.front number start (l :: ls)) s.context
        ((OpeningState.start s.context (.front number start (l :: ls)) [] []).rules Plain.grammar (l ++ [Bytes.newline])) =
        (ctx', some { block := .paragraph, lines := [(LineCursor.front number start (l :: ls)).span],
                      cursor := .within number start l ls l.length }) := by
      rw [rules_first, hmeasure, if_pos (by omega), Opening.firstOf_append, hfound]
      simp only [Opening.firstOf, Opening.try_, hcode, hparagraph]
    rw [hfound] at hcalm
    refine ⟨ctx', .within number start l ls l.length, hcalm, LineCursor.sameLine_within _, ?_⟩
    rw [openAfter_nil, OpeningState.run_opens LineCursor.peek?_front_cons (head?_line hl hne) rfl hrules]
    rfl
  · rw [hfound] at hsome
    cases hsome

end BlockState

end

/-! ### The lines of a single paragraph -/

lemma span_front (number start : Nat) (l : Bytes) (ls : List Bytes) :
    (LineCursor.front number start (l :: ls)).span = ⟨start, start + (l.length + 1), 0⟩ := by
  simp [LineCursor.span, LineCursor.front]

def lineSpans (start : Nat) : List Bytes → List Span
  | [] => []
  | l :: ls => ⟨start, start + (l.length + 1), 0⟩ :: lineSpans (start + (l.length + 1)) ls

def keepsText (source : Bytes) (spans : List Span) : Bool :=
  let text := textLines source spans
  let rest := removeDefinitions spans 0 (readDefinitions text (spans.length + 1) (.ofLines text))
  !rest.isEmpty && (Table.find? source rest).isNone

/-- Lines that are read as one paragraph: no line begins a block, none after the first is blank, and the text
of the paragraph is neither used up by link definitions nor by a table. -/
structure StaysParagraph (ls : List Bytes) : Prop where
  first : ∀ l ∈ ls.head?, beginsBlock false l = false
  later : ∀ l ∈ ls.tail, Bytes.isBlank l = false ∧ beginsBlock true l = false
  text : keepsText (Bytes.unlines ls) (lineSpans 0 ls) = true

lemma closeFrame_keepsText {source : Bytes} {f : Frame} (hf : f.block = .paragraph) (ctx : BlockContext) :
    if keepsText source f.lines then
      (closeFrame Plain.grammar source ctx f).2.map Node.kind = [.paragraph] ∧
        (closeFrame Plain.grammar source ctx f).1.footnotes = ctx.footnotes
    else Varied (closeFrame Plain.grammar source ctx f).2 := by
  simp only [keepsText, closeFrame, hf, settleParagraph]
  generalize removeDefinitions f.lines 0 _ = rest
  cases rest with
  | nil => simp [Varied, outlook, Node.kind, Node.info]
  | cons s spans =>
    have htables : Plain.grammar.tables = true := rfl
    simp only [htables, if_true, List.isEmpty_cons, Bool.not_false, Bool.true_and]
    cases hfound : Table.find? source (s :: spans) with
    | none => exact ⟨rfl, rfl⟩
    | some found =>
      obtain ⟨a, ha⟩ := kind_of_find? hfound
      have htable : false ∈ outlook [found.table] := by simp [outlook, ha]
      simp only [Option.isNone_some, Bool.false_eq_true, if_false]
      split
      · exact @varied_of_mem [] _ htable
      · exact @varied_of_mem [_] _ htable

namespace BlockState

variable {source : Bytes} {s : BlockState} {f : Frame} {number start : Nat} {l : Bytes} {ls : List Bytes}

/-- Nothing was read so far but the lines of a paragraph that is still open. -/
structure InParagraph (source : Bytes) (s : BlockState) (f : Frame) (number start : Nat) (ls : List Bytes) : Prop where
  calm : Calm s.context
  closed : s.closed = []
  frames : s.frames = [f]
  block : f.block = .paragraph
  cursor : s.cursor = .front number start ls
  ahead : source.drop start = Bytes.unlines ls

lemma InParagraph.step_eq (h : s.InParagraph source f number start (l :: ls)) :
    ∃ ctx blank, Calm ctx ∧ s.step Plain.grammar source =
      (true, let t := openAfter Plain.grammar source { s with context := ctx } blank [] [f] (.front number start (l :: ls))
        { t with cursor := t.cursor.nextLine }) := by
  refine ⟨{ s.context with stats := ⟨number, 0, Bytes.isBlank l⟩ :: s.context.stats },
    BlockContext.blankBefore { s.context with stats := ⟨number, 0, Bytes.isBlank l⟩ :: s.context.stats } number 0,
    ⟨h.calm.atNewItem, h.calm.footnotes⟩, ?_⟩
  have hp : f.block.isParagraph = true := by rw [h.block]; rfl
  rw [step, h.frames, h.cursor, LineCursor.peek?_front_cons, readLine, h.frames, h.cursor, LineCursor.number_front,
    Plain.matchFrames_one, hp]
  rfl

lemma InParagraph.keeps (h : s.InParagraph source f number start (l :: ls)) (hb : Bytes.isBlank l = false)
    (hk : beginsBlock true l = false) :
    (s.step Plain.grammar source).1 = true ∧
      (s.step Plain.grammar source).2.InParagraph source (f.addLine ⟨start, start + (l.length + 1), 0⟩) (number + 1)
        (start + (l.length + 1)) ls := by
  obtain ⟨ctx, blank, hcalm, hstep⟩ := h.step_eq
  obtain ⟨ctx', hcalm', hopen⟩ := @openAfter_behind source number start l ls f blank { s with context := ctx } h.block hcalm
    hk h.ahead
  rw [hstep, hopen, hb]
  refine ⟨rfl, hcalm', h.closed, ?_, h.block, LineCursor.nextLine_of_sameLine (.refl _), Plain.drop_line h.ahead⟩
  rw [← span_front number start l ls]
  rfl

lemma InParagraph.ends (h : s.InParagraph source f number start (l :: ls)) (hb : Bytes.isBlank l = true)
    (hk : beginsBlock true l = false) :
    (s.step Plain.grammar source).1 = true ∧ (s.step Plain.grammar source).2.frames = [] ∧
      outlook (s.step Plain.grammar source).2.closed ≠ [] ∧
      (s.step Plain.grammar source).2.cursor = .front (number + 1) (start + (l.length + 1)) ls := by
  obtain ⟨ctx, blank, hcalm, hstep⟩ := h.step_eq
  obtain ⟨ctx', hcalm', hopen⟩ := @openAfter_behind source number start l ls f blank { s with context := ctx } h.block hcalm
    hk h.ahead
  rw [hstep, hopen, hb]
  refine ⟨rfl, rfl, ?_, LineCursor.nextLine_of_sameLine (.refl _)⟩
  simp only [if_true, h.closed, List.nil_append]
  exact closeFrame_paragraph (by rw [Frame.addChildren, h.block]; rfl)

lemma InParagraph.spoils (h : s.InParagraph source f number start (l :: ls)) (hk : beginsBlock true l = true)
    (hn : beginsFootnote l = false) (hl : Bytes.newline ∉ l) :
    (s.step Plain.grammar source).1 = true ∧
      Spoiled (s.step Plain.grammar source).2.closed (s.step Plain.grammar source).2.frames := by
  obtain ⟨ctx, blank, hcalm, hstep⟩ := h.step_eq
  rw [hstep]
  exact ⟨rfl, @openAfter_begun source number start l ls f blank { s with context := ctx } h.block hcalm hk hn hl h.ahead⟩

lemma skipBlankLines_front (number : Nat) (hs : source.drop start = Bytes.unlines ls)
    (hb : ∃ l ∈ ls, Bytes.isBlank l = false) (fuel : Nat) (hfuel : ls.length ≤ fuel) (n : Nat) :
    ∃ number' start' l ls' n', skipBlankLines fuel (.front number start ls) n = (.front number' start' (l :: ls'), n') ∧
      l ∈ ls ∧ Bytes.isBlank l = false ∧ source.drop start' = Bytes.unlines (l :: ls') := by
  induction ls generalizing number start fuel n with
  | nil => simp at hb
  | cons l ls ih =>
    cases fuel with
    | zero => simp at hfuel
    | succ fuel =>
      rw [skipBlankLines, LineCursor.peek?_front_cons]
      dsimp only
      rw [Plain.isBlank_line]
      cases hl : Bytes.isBlank l with
      | false => exact ⟨number, start, l, ls, n, rfl, List.mem_cons_self, hl, hs⟩
      | true =>
        have hb' : ∃ l ∈ ls, Bytes.isBlank l = false := by simpa [hl] using hb
        obtain ⟨number', start', l', ls', n', he, hmem, hrest⟩ :=
          ih (number + 1) (Plain.drop_line hs) hb' fuel (by simpa using hfuel) (n + 1)
        refine ⟨number', start', l', ls', n', ?_, List.mem_cons_of_mem _ hmem, hrest⟩
        rw [if_pos rfl, LineCursor.nextLine_of_sameLine (.refl _), he]

lemma readLines_behind (hf : s.frames = []) (hc : outlook s.closed ≠ []) (hcur : s.cursor = .front number start ls)
    (hs : source.drop start = Bytes.unlines ls) (hb : ∃ l ∈ ls, Bytes.isBlank l = false)
    (hn : ∀ l ∈ ls, beginsFootnote l = false) (hl : ∀ l ∈ ls, Bytes.newline ∉ l) (fuel : Nat) :
    Varied (s.readLines Plain.grammar source (fuel + 1)).closed := by
  have hlater : ls.length ≤ (LineCursor.front number start ls).later.length + 1 := by
    rw [LineCursor.length_later_front]
    omega
  obtain ⟨number', start', l, ls', n', he, hmem, hblank, hs'⟩ := skipBlankLines_front number hs hb _ hlater 0
  rw [readLines, hf, List.isEmpty_nil, if_pos rfl, hcur, he]
  dsimp only
  rw [LineCursor.peek?_front_cons]
  dsimp only
  generalize (if n' != 0 then { s.context with stats := [] } else s.context) = ctx
  obtain ⟨hclosed, hgrade⟩ := @openAfter_nothing source number' start' l ls'
    (ctx.blankBefore (LineCursor.front number' start' (l :: ls')).number 0)
    { context := ctx, cursor := .front number start ls, closed := s.closed, frames := [] }
    hblank (hn l hmem) (hl l hmem) hs'
  generalize openAfter Plain.grammar source _ _ [] [] (.front number' start' (l :: ls')) = t at hclosed hgrade
  have hspoiled : Spoiled t.closed t.frames := by
    rw [hclosed]
    exact .inr (hgrade.imp id fun h => ⟨hc, h⟩)
  have hopen : t.frames.isEmpty = false := by
    cases ht : t.frames with
    | nil =>
      rw [ht] at hgrade
      rcases hgrade with h | h <;> cases h
    | cons f fs => rfl
  rw [hopen, if_neg Bool.false_ne_true]
  exact readLines_varied (s := { t with cursor := t.cursor.nextLine }) hspoiled fuel

lemma readLines_of_step {g : Grammar} (h : (s.step g source).1 = true) (fuel : Nat) :
    s.readLines g source (fuel + 1) = (s.step g source).2.readLines g source fuel := by
  rw [readLines_succ, h, if_pos rfl]

lemma InParagraph.readLines_keeps (h : s.InParagraph source f number start ls)
    (hk : ∀ l ∈ ls, Bytes.isBlank l = false ∧ beginsBlock true l = false) (fuel : Nat) (hfuel : ls.length < fuel) :
    ∃ ctx, Calm ctx ∧ (s.readLines Plain.grammar source fuel).closed =
        (closeFrame Plain.grammar source ctx { f with lines := f.lines ++ lineSpans start ls }).2 ∧
      (s.readLines Plain.grammar source fuel).context =
        (closeFrame Plain.grammar source ctx { f with lines := f.lines ++ lineSpans start ls }).1 := by
  induction ls generalizing s f number start fuel with
  | nil =>
    cases fuel with
    | zero => simp at hfuel
    | succ fuel =>
      refine ⟨s.context, h.calm, ?_⟩
      rw [readLines, h.frames, List.isEmpty_cons, if_neg Bool.false_ne_true, h.cursor, LineCursor.peek?_front_nil]
      simp only [finish, h.frames, h.closed, closeFrames, Frame.addChildren, lineSpans, List.append_nil, List.nil_append,
        and_self]
  | cons l ls ih =>
    cases fuel with
    | zero => simp at hfuel
    | succ fuel =>
      rw [List.forall_mem_cons] at hk
      obtain ⟨hmore, hnext⟩ := h.keeps hk.1.1 hk.1.2
      obtain ⟨ctx, hcalm, hclosed, hcontext⟩ := ih hnext hk.2 fuel (by simpa using hfuel)
      refine ⟨ctx, hcalm, ?_⟩
      rw [readLines_of_step hmore, hclosed, hcontext]
      simp [Frame.addLine, lineSpans]

lemma InParagraph.readLines_varied (h : s.InParagraph source f number start ls)
    (hk : ∃ l ∈ ls, ¬ (Bytes.isBlank l = false ∧ beginsBlock true l = false))
    (hlast : ∀ l ∈ ls.getLast?, Bytes.isBlank l = false) (hn : ∀ l ∈ ls, beginsFootnote l = false)
    (hl : ∀ l ∈ ls, Bytes.newline ∉ l) (fuel : Nat) (hfuel : ls.length < fuel) :
    Varied (s.readLines Plain.grammar source fuel).closed := by
  induction ls generalizing s f number start fuel with
  | nil => simp at hk
  | cons l ls ih =>
    cases fuel with
    | zero => simp at hfuel
    | succ fuel =>
      rw [List.forall_mem_cons] at hn hl
      cases hbegins : beginsBlock true l with
      | true =>
        obtain ⟨hmore, hspoiled⟩ := h.spoils hbegins hn.1 hl.1
        rw [readLines_of_step hmore]
        exact BlockState.readLines_varied hspoiled fuel
      | false =>
        cases hblank : Bytes.isBlank l with
        | true =>
          obtain ⟨hmore, hframes, hclosed, hcursor⟩ := h.ends hblank hbegins
          rw [readLines_of_step hmore]
          -- The last line is not blank, so another line follows.
          cases ls with
          | nil => rw [hlast l rfl] at hblank; cases hblank
          | cons m ms =>
            obtain ⟨fuel, rfl⟩ : ∃ n, fuel = n + 1 := ⟨fuel - 1, by simp at hfuel; omega⟩
            refine readLines_behind hframes hclosed hcursor (Plain.drop_line h.ahead) ?_ hn.2 hl.2 fuel
            exact ⟨_, List.getLast_mem (List.cons_ne_nil m ms), hlast _ (by simp [List.getLast?_eq_some_getLast])⟩
        | false =>
          obtain ⟨hmore, hnext⟩ := h.keeps hblank hbegins
          rw [readLines_of_step hmore]
          refine ih hnext (by simpa [hblank, hbegins] using hk) ?_ hn.2 hl.2 fuel (by simpa using hfuel)
          cases ls with
          | nil => simp
          | cons m ms => rwa [List.getLast?_cons_cons] at hlast

end BlockState

lemma BlockState.readLines_first {source : Bytes} {number start : Nat} {l : Bytes} {ls : List Bytes} {s : BlockState}
    (hf : s.frames = []) (hc : s.cursor = .front number start (l :: ls)) (hb : Bytes.isBlank l = false) (fuel : Nat) :
    ∃ blank, s.readLines Plain.grammar source (fuel + 1) =
      let t := s.openAfter Plain.grammar source blank [] [] (.front number start (l :: ls))
      if t.frames.isEmpty then t
      else readLines Plain.grammar source fuel { t with cursor := t.cursor.nextLine } := by
  have hskip : ∀ n, skipBlankLines (n + 1) (.front number start (l :: ls)) 0 = (.front number start (l :: ls), 0) := by
    intro n
    rw [skipBlankLines, LineCursor.peek?_front_cons]
    dsimp only
    rw [Plain.isBlank_line, hb, if_neg Bool.false_ne_true]
  refine ⟨s.context.blankBefore (LineCursor.front number start (l :: ls)).number 0, ?_⟩
  rw [readLines, hf, List.isEmpty_nil, if_pos rfl, hc, hskip]
  dsimp only
  rw [LineCursor.peek?_front_cons, ← hf, ← hc]
  rfl

section FirstLine

variable {l : Bytes} {ls : List Bytes} {s : BlockState}

lemma BlockState.readLines_begun (hf : s.frames = []) (hc : s.cursor = .front 0 0 (l :: ls)) (hctx : Calm s.context)
    (hblank : Bytes.isBlank l = false) (hl : Bytes.newline ∉ l) (hbegins : beginsBlock false l = true)
    (hn : beginsFootnote l = false) (fuel : Nat) :
    Varied (s.readLines Plain.grammar (Bytes.unlines (l :: ls)) (fuel + 1)).closed := by
  obtain ⟨blank, hread⟩ := @readLines_first (Bytes.unlines (l :: ls)) 0 0 l ls s hf hc hblank fuel
  have hgrade := @openAfter_first_begun (Bytes.unlines (l :: ls)) 0 0 l ls blank s hctx hbegins hn hl rfl
  rw [hread]
  generalize openAfter Plain.grammar (Bytes.unlines (l :: ls)) s blank [] [] (.front 0 0 (l :: ls)) = t at hgrade
  have hopen : t.frames.isEmpty = false := by
    cases ht : t.frames with
    | nil => rw [ht] at hgrade; cases hgrade
    | cons f fs => rfl
  dsimp only
  rw [hopen, if_neg Bool.false_ne_true]
  exact BlockState.readLines_varied (s := { t with cursor := t.cursor.nextLine }) (.inr (.inl hgrade)) _

lemma BlockState.readLines_unbegun (hf : s.frames = []) (hc : s.cursor = .front 0 0 (l :: ls)) (hctx : Calm s.context)
    (hclosed : s.closed = []) (hblank : Bytes.isBlank l = false) (hl : Bytes.newline ∉ l) (hbegins : beginsBlock false l = false)
    (hne : l ≠ []) (hhead : ∀ b ∈ l.head?, Bytes.isSpace b = false) (fuel : Nat) :
    ∃ blank t, InParagraph (Bytes.unlines (l :: ls)) t ⟨.paragraph, blank, [⟨0, l.length + 1, 0⟩], []⟩ 1 (l.length + 1) ls ∧
      s.readLines Plain.grammar (Bytes.unlines (l :: ls)) (fuel + 1) =
        t.readLines Plain.grammar (Bytes.unlines (l :: ls)) fuel := by
  obtain ⟨blank, hread⟩ := @readLines_first (Bytes.unlines (l :: ls)) 0 0 l ls s hf hc hblank fuel
  obtain ⟨ctx, c, hcalm, hsame, hopen⟩ :=
    @openAfter_first (Bytes.unlines (l :: ls)) 0 0 l ls blank s hctx hbegins hl hne hhead rfl
  rw [span_front, Nat.zero_add, hclosed] at hopen
  rw [hopen] at hread
  refine ⟨blank, ⟨ctx, c.nextLine, [], [⟨.paragraph, blank, [⟨0, l.length + 1, 0⟩], []⟩]⟩,
    ⟨hcalm, rfl, rfl, rfl, ?_, ?_⟩, ?_⟩
  · simpa using LineCursor.nextLine_of_sameLine hsame
  · simp
  · simpa using hread

lemma BlockState.readLines_paragraph {blank : Bool}
    (h : s.InParagraph (Bytes.unlines (l :: ls)) ⟨.paragraph, blank, [⟨0, l.length + 1, 0⟩], []⟩ 1 (l.length + 1) ls)
    (hlater : ∀ m ∈ ls, Bytes.isBlank m = false ∧ beginsBlock true m = false) (fuel : Nat) (hfuel : ls.length < fuel) :
    if keepsText (Bytes.unlines (l :: ls)) (lineSpans 0 (l :: ls)) then
      (s.readLines Plain.grammar (Bytes.unlines (l :: ls)) fuel).closed.map Node.kind = [.paragraph] ∧
        (s.readLines Plain.grammar (Bytes.unlines (l :: ls)) fuel).context.footnotes = []
    else Varied (s.readLines Plain.grammar (Bytes.unlines (l :: ls)) fuel).closed := by
  obtain ⟨ctx, hcalm, hclosed, hcontext⟩ := h.readLines_keeps hlater fuel hfuel
  have hspans : lineSpans 0 (l :: ls) = [⟨0, l.length + 1, 0⟩] ++ lineSpans (l.length + 1) ls := by
    simp [lineSpans]
  have hclose := @closeFrame_keepsText (Bytes.unlines (l :: ls))
    ⟨.paragraph, blank, [⟨0, l.length + 1, 0⟩] ++ lineSpans (l.length + 1) ls, []⟩ rfl ctx
  rw [hclosed, hcontext, hspans]
  rwa [hcalm.footnotes] at hclose

open BlockState in
/-- Lines with text at both ends are read as a single paragraph exactly when they stay one; where a line begins
a footnote, nothing is said of lines that do not. -/
lemma readBlocks_lines (hl : ∀ m ∈ l :: ls, Bytes.newline ∉ m)
    (hhead : ∃ b ∈ l.head?, Bytes.isSpace b = false) (hlast : ∀ m ∈ (l :: ls).getLast?, Bytes.isBlank m = false)
    (names : MarkdownAttributes) :
    (StaysParagraph (l :: ls) →
      (readBlocks Plain.grammar names (Bytes.unlines (l :: ls))).1.map Node.kind = [.paragraph] ∧
        (readBlocks Plain.grammar names (Bytes.unlines (l :: ls))).2.footnotes = []) ∧
      (¬ StaysParagraph (l :: ls) → (∀ m ∈ l :: ls, beginsFootnote m = false) →
        Varied (readBlocks Plain.grammar names (Bytes.unlines (l :: ls))).1) := by
  obtain ⟨b, hb, hspace⟩ := hhead
  have hne : l ≠ [] := by
    rintro rfl
    cases hb
  have hhead : ∀ c ∈ l.head?, Bytes.isSpace c = false := by
    intro c hc
    cases Option.mem_unique hb hc
    exact hspace
  have hblank : Bytes.isBlank l = false := by
    cases l with
    | nil => contradiction
    | cons c l => simp [Bytes.isBlank, hhead c rfl]
  have hlen : (Bytes.lines (Bytes.unlines (l :: ls))).length = ls.length + 1 := by
    rw [Bytes.lines_unlines hl, List.length_map, List.length_cons]
  have hctx : Calm { names := names } := ⟨rfl, rfl⟩
  rw [readBlocks, hlen, LineCursor.ofSource_unlines hl]
  dsimp only
  cases hbegins : beginsBlock false l with
  | true =>
    refine ⟨fun h => ?_, fun _ hn => ?_⟩
    · rw [h.first l rfl] at hbegins
      cases hbegins
    · exact readLines_begun rfl rfl hctx hblank (hl l List.mem_cons_self) hbegins (hn l List.mem_cons_self) _
  | false =>
    obtain ⟨blank, t, hin, hread⟩ :=
      @readLines_unbegun l ls { context := { names := names }, cursor := .front 0 0 (l :: ls) } rfl rfl hctx rfl hblank
        (hl l List.mem_cons_self) hbegins hne hhead (ls.length + 1)
    rw [hread]
    by_cases hlater : ∀ m ∈ ls, Bytes.isBlank m = false ∧ beginsBlock true m = false
    · have hkeeps := readLines_paragraph hin hlater (ls.length + 1) (Nat.lt_succ_self _)
      refine ⟨fun h => ?_, fun h _ => ?_⟩
      · rwa [h.text, if_pos rfl] at hkeeps
      · rwa [if_neg] at hkeeps
        exact fun ht => h ⟨by rintro m ⟨⟩; exact hbegins, hlater, ht⟩
    · refine ⟨fun h => absurd h.later hlater, fun _ hn => ?_⟩
      have hbad : ∃ m ∈ ls, ¬ (Bytes.isBlank m = false ∧ beginsBlock true m = false) := by
        by_contra hnone
        exact hlater fun m hm => by_contra fun hb => hnone ⟨m, hm, hb⟩
      have hend : ∀ m ∈ ls.getLast?, Bytes.isBlank m = false := by
        cases ls with
        | nil => simp
        | cons m ms => rwa [List.getLast?_cons_cons] at hlast
      rw [List.forall_mem_cons] at hn hl
      exact hin.readLines_varied hbad hend hn.2 hl.2 _ (Nat.lt_succ_self _)

end FirstLine

theorem parseDocument_lines {ls : List Bytes} (hl : ∀ l ∈ ls, Bytes.newline ∉ l)
    (hhead : ∀ l ∈ ls.head?, ∃ b ∈ l.head?, Bytes.isSpace b = false)
    (hlast : ∀ l ∈ ls.getLast?, Bytes.isBlank l = false) (names : MarkdownAttributes) :
    (StaysParagraph ls →
      (parseDocument Plain.grammar names (Bytes.unlines ls)).1.children.map Node.kind = [.paragraph]) ∧
      ((parseDocument Plain.grammar names (Bytes.unlines ls)).1.children.map Node.kind = [.paragraph] →
        StaysParagraph ls ∨ ∃ l ∈ ls, beginsFootnote l = true) := by
  cases ls with
  | nil =>
    refine ⟨fun h => absurd h.text (by decide), fun h => ?_⟩
    have hnone : outlook (parseDocument Plain.grammar names (Bytes.unlines [])).1.children = [] :=
      (outlook_parseDocument _ _ _).trans rfl
    rw [@outlook_eq_of_kinds _ [.leaf .paragraph []] h] at hnone
    cases hnone
  | cons l ls =>
    obtain ⟨hstays, hvaried⟩ := readBlocks_lines hl (hhead l rfl) hlast names
    refine ⟨fun h => ?_, fun h => ?_⟩
    · obtain ⟨hkinds, hnotes⟩ := hstays h
      rw [kinds_parseDocument hnotes, hkinds]
    · by_contra hno
      rw [not_or] at hno
      have hv := hvaried hno.1 (by simpa using hno.2)
      rw [Varied, ← outlook_parseDocument, @outlook_eq_of_kinds _ [.leaf .paragraph []] h] at hv
      exact hv.2 rfl

end MarkdownTidy
