import Mathlib.Tactic.Common
import MarkdownTidy.Document.Blocks

/-! All that one rule can open, all that one step of opening blocks can come to, and all that one line can do to an open
block. What holds of blocks while they are read is shown from these, without looking into the rules again. -/

namespace MarkdownTidy

inductive LineCursor.Reaches (c : LineCursor) : LineCursor → Prop
  | here : c.Reaches c
  | advance {d : LineCursor} (h : c.Reaches d) (n : Nat) : c.Reaches (d.advance n)
  | padded {d : LineCursor} (h : c.Reaches d) (n padding : Nat) : c.Reaches (d.advancePadded n padding)

namespace Opening

variable {source : Bytes} {place : Place} {c : LineCursor} {ctx ctx' : BlockContext} {o : Opened}

lemma reaches_quoteMarker? {d : LineCursor} (h : quoteMarker? c = some d) : c.Reaches d := by
  have hinner : c.Reaches (c.advance ((Indent.measure c.rest c.column).2 + 1)) := .advance .here _
  simp only [quoteMarker?] at h
  split at h
  · cases h
  · split at h
    · split at h
      · cases h
        exact hinner.advance 1
      · split at h
        · cases h
          exact hinner.padded 1 _
        · cases h
          exact hinner
    · cases h
      exact hinner

/-- The block that a rule may open at a position, and what is the case where it does. -/
inductive Opens (source : Bytes) (place : Place) (c : LineCursor) : BlockRule → Opened → Prop
  | setextHeading {level : Nat} (hlevel : underlineLevel? c.rest = some level) (hlast : place.lastIsParagraph = true)
      (hin : place.lastIsInHolder = true) :
      Opens source place c .setextHeading { block := .heading level, cursor := c, takesParagraph := true }
  | thematicBreak (h : isThematicBreak c.rest c.column = true) :
      Opens source place c .thematicBreak { block := .thematicBreak, cursor := c.toLastByte }
  | list {m : ListMarker} (hm : ListMarker.read? c.rest = some m) (hlast : place.lastIsList = false) :
      Opens source place c .list { block := .list m.mark m.number, cursor := c, descend := true }
  | emptyItem {m : ListMarker} (hm : ListMarker.read? c.rest = some m) (hempty : m.isEmpty = true) :
      Opens source place c .listItem { block := .listItem (m.stop + m.gap), cursor := c }
  | listItem {m : ListMarker} (hm : ListMarker.read? c.rest = some m) (hempty : m.isEmpty = false)
      {count padding : Nat} (htake : (Indent.take? m.rest m.stop 0 m.gap).getD (0, 0) = (count, padding)) :
      Opens source place c .listItem
        { block := .listItem (m.stop + m.gap), cursor := c.advancePadded (m.stop + count) padding, descend := true }
  | codeBlock {count padding : Nat} (htake : Indent.take? c.rest c.column 0 4 = some (count, padding))
      (hblank : Bytes.isBlank c.rest = false) {d : LineCursor} (hd : c.advancePadded count padding = d) :
      Opens source place c .codeBlock
        { block := .codeBlock, lines := [codeSpan d d.span 0], cursor := d.advance ((codeSpan d d.span 0).length - 1) }
  | atxHeading {level : Nat} {lines : List Span} (hlevel : 1 ≤ level ∧ level ≤ 6) :
      Opens source place c .atxHeading { block := .heading level, lines := lines, cursor := c }
  | fencedCode {info : Option Span} {mark : UInt8} {indent length : Nat}
      (h : Opening.fencedCode c = some { block := .fencedCode info mark indent length, cursor := c }) :
      Opens source place c .fencedCode { block := .fencedCode info mark indent length, cursor := c }
  | blockquote {d : LineCursor} (hd : quoteMarker? c = some d) :
      Opens source place c .blockquote { block := .blockquote, cursor := d, descend := true }
  | html {type : Nat} (htype : HtmlBlock.kind? c.rest place.lastIsParagraph = some type) :
      Opens source place c .html { block := .html type none, lines := [c.span], cursor := c.toLastByte }
  | footnote {label : Bytes} {d : LineCursor} {descend : Bool} (hd : c.Reaches d)
      (h : Opening.footnote source c = some { block := .footnote label, cursor := d, descend := descend }) :
      Opens source place c .footnote { block := .footnote label, cursor := d, descend := descend }
  | paragraph (h : (c.span.trimLeft source).isEmpty = false) :
      Opens source place c .paragraph { block := .paragraph, lines := [c.span.trimLeft source], cursor := c.toLastByte }
  | shortcode {s : ShortcodeSource} {payload : Shortcode} {stop : Nat} :
      Opens source place c (.shortcode s) { block := .shortcode payload stop, cursor := c.toLastByte }
  | frontMatter {problem? : Bytes → Option Bytes} (hfirst : c.number = 0) (hline : isSeparator c.rest = true) :
      Opens source place c (.frontMatter problem?) { block := .frontMatter problem?, cursor := c }

lemma Opens.of_list (h : Opening.list place c = some o) (hlast : place.lastIsList = false) :
    Opens source place c .list o := by
  rw [Opening.list] at h
  split at h
  · cases h
  · split at h
    · cases h
    · cases h
      exact .list ‹_› hlast

lemma Opens.of_listItem (h : Opening.listItem place c = some o) : Opens source place c .listItem o := by
  simp only [Opening.listItem] at h
  split at h
  · split at h
    · cases h
    · split at h
      · cases h
        exact .emptyItem ‹_› ‹_›
      · cases h
        exact .listItem ‹_› (Bool.not_eq_true _ ▸ ‹_›) rfl
  · cases h

lemma Opens.of_codeBlock (h : Opening.codeBlock c = some o) : Opens source place c .codeBlock o := by
  simp only [Opening.codeBlock] at h
  split at h
  · cases h
  · split at h
    · cases h
    · cases h
      exact .codeBlock ‹_› (Bool.not_eq_true _ ▸ ‹_›) rfl

lemma Opens.of_atxHeading (h : Opening.atxHeading c = some o) : Opens source place c .atxHeading o := by
  simp only [Opening.atxHeading] at h
  split at h
  · cases h
  · split at h
    · cases h
    · rename_i hlevel
      simp only [Bool.or_eq_true, beq_iff_eq, decide_eq_true_eq, not_or, gt_iff_lt, Nat.not_lt] at hlevel
      have hbounds := And.imp_left Nat.pos_of_ne_zero hlevel
      split at h
      · cases h
        exact .atxHeading hbounds
      · split at h
        · cases h
        · cases h
          exact .atxHeading hbounds

lemma Opens.of_fencedCode (h : Opening.fencedCode c = some o) : Opens source place c .fencedCode o := by
  have ho := h
  simp only [Opening.fencedCode] at ho
  split at ho
  · cases ho
  · split at ho
    · cases ho
    · split at ho
      · cases ho
      · split at ho
        · cases ho
        · cases ho
          exact .fencedCode h

lemma Opens.of_footnote (h : Opening.footnote source c = some o) : Opens source place c .footnote o := by
  have ho := h
  simp only [Opening.footnote] at ho
  split at ho
  · cases ho
  · split at ho
    · cases ho
    · split at ho
      · split at ho
        · cases ho
        · split at ho
          · cases ho
          · split at ho
            · cases ho
              exact .footnote (.advance .here _) h
            · cases ho
              exact .footnote (.padded .here _ _) h
      · cases ho

lemma Opens.of_shortcode {s : ShortcodeSource} {names : MarkdownAttributes}
    (h : (Opening.shortcode s source place.holder names c).1 = some o) : Opens source place c (.shortcode s) o := by
  obtain ⟨⟨payload, stop⟩, -, ho⟩ := Option.bind_eq_some_iff.mp h
  simp only [Option.ite_none_right_eq_some, Option.some.injEq] at ho
  obtain ⟨-, rfl⟩ := ho
  exact .shortcode

/-- What a rule opens, whatever was collected before. -/
lemma opens_of_try {r : BlockRule} (h : try_ source place ctx c r = (ctx', some o)) : Opens source place c r o := by
  cases r <;> simp only [try_, Prod.mk.injEq] at h
  case setextHeading =>
    replace h := h.2
    rw [Opening.setextHeading] at h
    split at h
    · rename_i hplace
      rw [Bool.and_eq_true] at hplace
      obtain ⟨level, hlevel, rfl⟩ := Option.map_eq_some_iff.mp h
      exact .setextHeading hlevel hplace.1 hplace.2
    · cases h
  case thematicBreak =>
    replace h := h.2
    rw [Opening.thematicBreak] at h
    split at h
    · cases h
      exact .thematicBreak ‹_›
    · cases h
  case list =>
    split at h
    · cases h
    · rename_i hplace
      simp only [Bool.or_eq_true, not_or, Bool.not_eq_true] at hplace
      split at h
      · cases h
      · cases h
        exact .of_list ‹_› hplace.1
  case listItem =>
    split at h
    · cases h
    · cases h
      exact .of_listItem ‹_›
  case codeBlock => exact .of_codeBlock h.2
  case atxHeading => exact .of_atxHeading h.2
  case fencedCode => exact .of_fencedCode h.2
  case blockquote =>
    obtain ⟨d, hd, rfl⟩ := Option.map_eq_some_iff.mp h.2
    exact .blockquote hd
  case html =>
    replace h := h.2
    rw [Opening.html] at h
    split at h
    · cases h
    · obtain ⟨type, htype, rfl⟩ := Option.map_eq_some_iff.mp h
      exact .html htype
  case footnote => exact .of_footnote h.2
  case paragraph =>
    replace h := h.2
    simp only [Opening.paragraph] at h
    split at h
    · cases h
    · cases h
      exact .paragraph (Bool.not_eq_true _ ▸ ‹_›)
  case shortcode s => exact .of_shortcode h.2
  case frontMatter problem? =>
    replace h := h.2
    rw [Opening.frontMatter] at h
    split at h
    · rename_i hline
      rw [Bool.and_eq_true, beq_iff_eq] at hline
      cases h
      exact .frontMatter hline.1 hline.2
    · cases h
  case never => cases h.2

lemma Opens.reaches {r : BlockRule} (h : Opens source place c r o) : c.Reaches o.cursor := by
  cases h with
  | setextHeading | list | emptyItem | atxHeading | fencedCode | frontMatter => exact .here
  | thematicBreak | html | paragraph | shortcode => exact .advance .here _
  | listItem => exact .padded .here _ _
  | codeBlock _ _ hd =>
    subst hd
    exact .advance (.padded .here _ _) _
  | blockquote hd => exact reaches_quoteMarker? hd
  | footnote hd => exact hd

lemma exists_of_firstOf {rs : List BlockRule} (h : firstOf source place c ctx rs = (ctx', some o)) :
    ∃ r ∈ rs, ∃ ctx₁, try_ source place ctx₁ c r = (ctx', some o) := by
  induction rs generalizing ctx with
  | nil => cases h
  | cons r rs ih =>
    rw [firstOf] at h
    rcases ht : try_ source place ctx c r with ⟨ctx₁, _ | o₁⟩
    · rw [ht] at h
      obtain ⟨r', hr', h'⟩ := ih h
      exact ⟨r', List.mem_cons_of_mem _ hr', h'⟩
    · rw [ht] at h
      exact ⟨r, List.mem_cons_self, ctx, ht.trans h⟩

lemma opens_of_firstOf {rs : List BlockRule} (h : firstOf source place c ctx rs = (ctx', some o)) :
    ∃ r ∈ rs, Opens source place c r o := by
  obtain ⟨r, hr, ctx₁, ht⟩ := exists_of_firstOf h
  exact ⟨r, hr, opens_of_try ht⟩

end Opening

/-! ### What trying rules leaves as it was -/

structure BlockContext.Passes (ctx ctx' : BlockContext) : Prop where
  footnotes : ctx'.footnotes = ctx.footnotes
  atNewItem : ctx'.atNewItem = true → ctx.atNewItem = true
  emptyItem : ctx'.emptyItem = true → ctx.emptyItem = true

namespace BlockContext.Passes

variable {ctx ctx' ctx'' : BlockContext}

lemma refl (ctx : BlockContext) : ctx.Passes ctx := ⟨rfl, id, id⟩

lemma trans (h : ctx.Passes ctx') (h' : ctx'.Passes ctx'') : ctx.Passes ctx'' :=
  ⟨h'.footnotes.trans h.footnotes, h.atNewItem ∘ h'.atNewItem, h.emptyItem ∘ h'.emptyItem⟩

lemma try_ (ctx : BlockContext) (source : Bytes) (place : Place) (c : LineCursor) (r : BlockRule) :
    ctx.Passes (Opening.try_ source place ctx c r).1 := by
  cases r
  case list =>
    simp only [Opening.try_]
    split
    · exact ⟨rfl, fun h => (Bool.false_ne_true h).elim, id⟩
    · split
      · exact .refl ctx
      · exact ⟨rfl, id, fun h => (Bool.false_ne_true h).elim⟩
  case listItem =>
    simp only [Opening.try_]
    split
    · exact .refl ctx
    · exact ⟨rfl, id, fun h => (Bool.false_ne_true h).elim⟩
  case shortcode s => exact ⟨rfl, id, id⟩
  all_goals exact .refl ctx

lemma firstOf (ctx : BlockContext) (source : Bytes) (place : Place) (c : LineCursor) (rs : List BlockRule) :
    ctx.Passes (Opening.firstOf source place c ctx rs).1 := by
  induction rs generalizing ctx with
  | nil => exact .refl ctx
  | cons r rs ih =>
    have ht := try_ ctx source place c r
    rw [Opening.firstOf]
    generalize Opening.try_ source place ctx c r = tried at ht
    obtain ⟨ctx', _ | o⟩ := tried
    · exact ht.trans (ih ctx')
    · exact ht

end BlockContext.Passes

/-! ### Opening the blocks of a line -/

namespace OpeningState

/-- Opens one block, and tells whether more may begin on the line. -/
def step (g : Grammar) (source : Bytes) (blank : Bool) (s : OpeningState) : Bool × OpeningState :=
  match s.cursor.peek? with
  | none => (false, s)
  | some line =>
    if line.head? == some Bytes.newline then (false, s)
    else
      match Opening.firstOf source s.place s.cursor s.context (s.rules g line) with
      | (ctx, none) => (false, { s with context := ctx })
      | (ctx, some o) =>
        let s := { s with context := ctx }
        match o.takesParagraph, s.last with
        | true, some p =>
          let (ctx, kept, after) :=
            settleParagraph g source ctx (trimLines source p.lines) p.blankBefore
          let s := { s with
            context := ctx, last := none, lastIsInHolder := false, continuable := false,
            settled := some after }
          match kept with
          | none => (true, s)
          | some lines =>
            (false, s.push o { block := o.block, blankBefore := p.blankBefore, lines := lines })
        | _, _ => (o.descend, s.push o { block := o.block, blankBefore := blank, lines := o.lines })

variable {g : Grammar} {source : Bytes} {blank : Bool}

lemma run_succ (fuel : Nat) (s : OpeningState) :
    run g source blank (fuel + 1) s =
      if (s.step g source blank).1 then run g source blank fuel (s.step g source blank).2
      else (s.step g source blank).2 := by
  simp only [run, step]
  cases s.cursor.peek? with
  | none => rfl
  | some line =>
    simp only
    cases line.head? == some Bytes.newline with
    | true => rfl
    | false =>
      rcases Opening.firstOf source s.place s.cursor s.context (s.rules g line) with ⟨ctx, _ | o⟩
      · rfl
      · simp only
        cases o.takesParagraph with
        | false => rfl
        | true =>
          cases s.last with
          | none => rfl
          | some p =>
            simp only
            rcases settleParagraph g source ctx _ _ with ⟨ctx, _ | lines, after⟩ <;> rfl

lemma mem_block_of_mem_rules {s : OpeningState} {line : Bytes} {r : BlockRule} (h : r ∈ s.rules g line) :
    r ∈ g.block := by
  have hr := (List.mem_filter.mp h).1
  split at hr
  · rw [Grammar.blockRulesFor, List.mem_append] at hr
    exact hr.elim (List.mem_filter.mp · |>.1) (List.mem_filter.mp · |>.1)
  · exact (List.mem_filter.mp hr).1

def afterParagraph (s : OpeningState) (ctx : BlockContext) (nodes : List Node) : OpeningState :=
  { s with context := ctx, last := none, lastIsInHolder := false, continuable := false, settled := some nodes }

/-- All that one step can do: nothing is left of the line, no rule opens a block, a block is opened, or a heading takes
the paragraph before it. That was link definitions alone if no line is left of it, and other blocks may begin then. -/
inductive Steps (g : Grammar) (source : Bytes) (blank : Bool) (s : OpeningState) : Bool × OpeningState → Prop
  | ended (hl : ∀ line, s.cursor.peek? = some line → line.head? = some Bytes.newline) : Steps g source blank s (false, s)
  | silent {line : Bytes} {ctx : BlockContext} (hl : s.cursor.peek? = some line)
      (hf : Opening.firstOf source s.place s.cursor s.context (s.rules g line) = (ctx, none)) :
      Steps g source blank s (false, { s with context := ctx })
  | opens {line : Bytes} {ctx : BlockContext} {o : Opened} (hl : s.cursor.peek? = some line)
      (hf : Opening.firstOf source s.place s.cursor s.context (s.rules g line) = (ctx, some o)) :
      Steps g source blank s (o.descend, { s with context := ctx }.push o ⟨o.block, blank, o.lines, []⟩)
  | defines {line : Bytes} {ctx ctx' : BlockContext} {o : Opened} {p : Frame} {nodes : List Node}
      (hl : s.cursor.peek? = some line)
      (hf : Opening.firstOf source s.place s.cursor s.context (s.rules g line) = (ctx, some o))
      (htakes : o.takesParagraph = true) (hlast : s.last = some p)
      (hp : settleParagraph g source ctx (trimLines source p.lines) p.blankBefore = (ctx', none, nodes)) :
      Steps g source blank s (true, s.afterParagraph ctx' nodes)
  | underlines {line : Bytes} {ctx ctx' : BlockContext} {o : Opened} {p : Frame} {lines : List Span} {nodes : List Node}
      (hl : s.cursor.peek? = some line)
      (hf : Opening.firstOf source s.place s.cursor s.context (s.rules g line) = (ctx, some o))
      (htakes : o.takesParagraph = true) (hlast : s.last = some p)
      (hp : settleParagraph g source ctx (trimLines source p.lines) p.blankBefore = (ctx', some lines, nodes)) :
      Steps g source blank s (false, (s.afterParagraph ctx' nodes).push o ⟨o.block, p.blankBefore, lines, []⟩)

lemma steps (s : OpeningState) : Steps g source blank s (s.step g source blank) := by
  rw [step]
  split
  · rename_i hl
    exact .ended fun line h => by rw [hl] at h; cases h
  · rename_i line hl
    split
    · rename_i hhead
      exact .ended fun line' h => by rw [hl] at h; cases h; simpa using hhead
    · split
      · rename_i hf
        exact .silent hl hf
      · rename_i ctx o hf
        simp only
        split
        · rename_i p htakes hlast
          rcases hp : settleParagraph g source ctx (trimLines source p.lines) p.blankBefore with ⟨ctx', _ | lines, nodes⟩
          · exact .defines hl hf htakes hlast hp
          · exact .underlines hl hf htakes hlast hp
        · exact .opens hl hf

lemma run_induction {P : OpeningState → Prop} (hstep : ∀ {s r}, Steps g source blank s r → P s → P r.2)
    {s : OpeningState} (h : P s) (fuel : Nat) : P (s.run g source blank fuel) := by
  induction fuel generalizing s with
  | zero => exact h
  | succ fuel ih =>
    have hnext := hstep s.steps h
    rw [run_succ]
    split
    · exact ih hnext
    · exact hnext

end OpeningState

/-! ### Going on with an open block -/

/-- What a line may do to an open block: end it, go on with it, or add a line to it. -/
inductive Verdict.Of (c : LineCursor) (f : Frame) : Verdict → Prop
  | close : Of c f (.close f c)
  | closeBehind (n : Nat) : Of c f (.close f (c.advance n))
  | closeHtml {type : Nat} {closure : Option Span} (hb : f.block = .html type closure) (n : Nat) :
      Of c f (.close { f with block := .html type (some c.span) } (c.advance n))
  | keep {d : LineCursor} (hd : c.Reaches d) (container : Bool) : Of c f (.keep f d container)
  | addLine {d : LineCursor} (hd : c.Reaches d) (s : Span) : Of c f (.keep (f.addLine s) d false)

namespace Continuing

variable {source : Bytes} {c : LineCursor} {f : Frame}

lemma of_list (last : Bool) (ctx : BlockContext) (marker : UInt8) (offset : Nat) (empty : Bool) :
    (list last ctx f marker offset empty c).2.Of c f := by
  have hkeep : Verdict.Of c f (.keep f c true) := .keep .here true
  simp only [list]
  repeat' split
  all_goals first | exact hkeep | exact .close

lemma of_listItem (ctx : BlockContext) (offset : Nat) (empty : Bool) :
    (listItem ctx f offset empty c).2.Of c f := by
  -- Whatever the line is, the item ends where it stands, or goes on behind its indentation.
  rw [listItem]
  split
  · exact .keep (.advance .here _) true
  · simp only
    repeat' split
    · exact .close
    · exact .close
    · exact .keep (.padded .here _ _) true
    · exact .keep .here true
    · exact .keep (.padded .here _ _) true
    · exact .keep .here true

lemma of_codeBlock : (codeBlock source f c).Of c f := by
  rw [codeBlock]
  split
  · exact .addLine .here _
  · split
    · exact .close
    · exact .addLine (.advance (.padded .here _ _) _) _

lemma of_fencedCode (mark : UInt8) (indent length : Nat) : (fencedCode f mark indent length c).Of c f := by
  rw [fencedCode]
  simp only
  split
  · exact .closeBehind _
  · exact .addLine (.padded .here _ _) _

lemma of_html {type : Nat} {closure : Option Span} (hb : f.block = .html type closure) :
    (html source f type c).Of c f := by
  have hkeep : Verdict.Of c f (.keep (f.addLine c.span) c.toLastByte false) := .addLine (.advance .here _) _
  simp only [html]
  split_ifs
  all_goals first | exact hkeep | exact .close | exact .closeHtml hb _

lemma of_footnote : (footnote f c).Of c f := by
  rw [footnote]
  split
  · exact .keep .here true
  · split
    · exact .close
    · exact .keep (.padded .here _ _) true

lemma of_frontMatter : (frontMatter f c).Of c f := by
  rw [frontMatter]
  split
  · exact .closeBehind _
  · exact .addLine .here _

lemma of_block (last : Bool) (ctx : BlockContext) (inner : List Frame) :
    (block source last ctx f inner c).2.Of c f := by
  rw [block]
  split
  case h_1 | h_2 | h_3 => exact .close
  case h_4 => exact of_codeBlock
  case h_5 => exact of_fencedCode _ _ _
  case h_6 =>
    split
    · exact .keep (Opening.reaches_quoteMarker? ‹_›) true
    · exact .close
  case h_7 => exact of_list last ctx _ _ _
  case h_8 => exact of_listItem ctx _ _
  case h_9 hb => exact of_html hb
  case h_10 => exact of_footnote
  case h_11 =>
    simp only
    split
    · exact .close
    · exact .keep (.advance .here _) false
  case h_12 => exact of_frontMatter

lemma footnotes_block (last : Bool) (ctx : BlockContext) (inner : List Frame) :
    (block source last ctx f inner c).1.footnotes = ctx.footnotes := by
  rw [block]
  split
  case h_6 => split <;> rfl
  case h_7 =>
    simp only [list]
    repeat' split
    all_goals rfl
  case h_8 =>
    simp only [listItem]
    repeat' split
    all_goals rfl
  all_goals rfl

end Continuing

end MarkdownTidy
