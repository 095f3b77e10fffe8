import Mathlib.Data.List.Forall2
import MarkdownTidy.Proofs.Plain.Frames
import MarkdownTidy.Writer.Code

/-! The blocks of a plain document are the blocks of its outline. Two documents whose texts differ may share how their
blocks lie in each other, and what their code says. -/

namespace MarkdownTidy

/-- A kind of block without the texts in it and without its place in the source. -/
def Kind.bare : Kind → Kind
  | .fencedCode _ => .fencedCode none
  | .htmlBlock type _ => .htmlBlock type none
  | .footnote _ index => .footnote [] index
  | .badFrontMatter _ => .badFrontMatter []
  | .blockShortcode _ => .blockShortcode default
  | .media _ _ medium => .media [] [] medium
  | k => k

inductive BlockTree where
  | mk (kind : Kind) (inner : List BlockTree)

mutual

def Node.blockTree : Node → BlockTree
  | .mk info children => .mk info.kind.bare (blockTrees children)

def blockTrees : List Node → List BlockTree
  | [] => []
  | n :: ns => if n.kind.isBlock then n.blockTree :: blockTrees ns else blockTrees ns

end

mutual

/-- The contents of the code blocks and code spans of a tree, in order. -/
def Node.codes (source : Bytes) : Node → List Bytes
  | .mk info children =>
    (match info.kind with
      | .codeSpan => [children.flatMap (Writer.codeText source)]
      | .codeBlock | .fencedCode _ => [Writer.linesValue source info.lines]
      | _ => []) ++ codesAmong source children

def codesAmong (source : Bytes) : List Node → List Bytes
  | [] => []
  | n :: ns => n.codes source ++ codesAmong source ns

end

end MarkdownTidy

namespace MarkdownTidy.Plain

/-- A block of the tree, before its text is read, is a block of the outline. -/
inductive Shows (source : Bytes) : Node → Block → Prop
  | paragraph {blank : Bool} {spans : List Span} {ps : List Bytes} (h : Lines source spans ps) :
      Shows source (.mk { kind := .paragraph, lines := spans, blankBefore := blank } []) (.paragraph ps)
  | heading {blank : Bool} {level : Nat} {spans : List Span} {text : Bytes}
      (h : HeadingLines source spans text) :
      Shows source (.mk { kind := .heading level, lines := spans, blankBefore := blank } [])
        (.heading level text)
  | indented {blank : Bool} {spans : List Span} {ls : List Bytes} (h : CodeLines source spans ls) :
      Shows source (.mk { kind := .codeBlock, lines := spans, blankBefore := blank } []) (.code [] ls)
  | fenced {blank : Bool} {info : Option Span} {i : Bytes} {spans : List Span} {ls : List Bytes}
      (hi : LabelSpan source info i) (h : CodeLines source spans ls) :
      Shows source (.mk { kind := .fencedCode info, lines := spans, blankBefore := blank } []) (.code i ls)

namespace Open

/-- The kind of the block that is open. -/
def kind : Open → Kind
  | nothing => .document
  | heading level _ => .heading level
  | paragraph _ => .paragraph
  | indented _ => .codeBlock
  | fenced .. => .fencedCode none

def ended : Open → List Open
  | nothing => []
  | o => [o]

def endedBy (o : Open) (l : Bytes) : List Open := if (o.step l).1.isEmpty then [] else o.ended

def endings : Open → List Bytes → List Open
  | o, [] => o.ended
  | o, l :: ls => o.endedBy l ++ endings (o.step l).2 ls

lemma endedBy_nothing (l : Bytes) : nothing.endedBy l = [] := rfl

end Open

structure Ends (source : Bytes) (n : Node) (o : Open) : Prop where
  shows : ∃ b, o.close = [b] ∧ Shows source n b
  kind : n.kind.bare = o.kind

variable {source : Bytes}

/-! ### Closing blocks -/

lemma forall₂_dropWhile {α β : Type} {r : α → β → Prop} {p : α → Bool} {q : β → Bool}
    (hpq : ∀ a b, r a b → p a = q b) {l : List α} {l' : List β} (h : List.Forall₂ r l l') :
    List.Forall₂ r (l.dropWhile p) (l'.dropWhile q) := by
  induction h with
  | nil => exact .nil
  | @cons a b l l' hab h ih =>
    simp only [List.dropWhile_cons, hpq a b hab]
    split
    · exact ih
    · exact .cons hab h

lemma codeLines_dropBlank {spans : List Span} {ls : List Bytes} (h : CodeLines source spans ls) :
    CodeLines source (dropBlankLines source spans) (dropBlankEnd ls) := by
  apply List.rel_reverse
  apply forall₂_dropWhile
  · intro s l hs
    rw [hs.value_eq, isBlank_line]
  · exact List.rel_reverse h

lemma wordy_of_carries {spans : List Span} {ps : List Bytes} (h : List.Forall₂ (Carries source) spans ps)
    (hw : ∀ p ∈ ps, Words p) : ∀ s ∈ spans, Wordy source s := by
  induction h with
  | nil => simp
  | cons hs _ ih =>
    rw [List.forall_mem_cons] at hw ⊢
    exact ⟨hs.wordy hw.1, ih hw.2⟩

lemma closeFrame_holds {f : Frame} {o : Open} (hf : Holds source f o) (ho : o.Sound) (ctx : BlockContext) :
    ∃ n, closeFrame grammar source ctx f = (ctx, [n]) ∧ List.Forall₂ (Ends source) [n] o.ended := by
  cases hf with
  | heading h => exact ⟨_, rfl, .cons ⟨⟨_, rfl, .heading h⟩, rfl⟩ .nil⟩
  | @paragraph blank spans ps h =>
    have hne : spans ≠ [] := by
      rintro rfl
      cases h
      exact ho.1 rfl
    have hs := settleParagraph_wordy (wordy_of_carries h ho.2.1) hne
    refine ⟨.mk { kind := .paragraph, lines := trimLines source spans, blankBefore := blank } [], ?_,
      .cons ⟨⟨_, rfl, .paragraph (lines_trimLines h ho.2.1 ho.1)⟩, rfl⟩ .nil⟩
    simp only [closeFrame, hs]
  | indented h => exact ⟨_, rfl, .cons ⟨⟨_, rfl, .indented (codeLines_dropBlank h)⟩, rfl⟩ .nil⟩
  | fenced hi h => exact ⟨_, rfl, .cons ⟨⟨_, rfl, .fenced hi h⟩, rfl⟩ .nil⟩

lemma Holds.addChildren_nil {f : Frame} {o : Open} (h : Holds source f o) : f.addChildren [] = f := by
  cases h <;> rfl

lemma closeFrames_holds {fs : List Frame} {o : Open} (hf : HoldAll source fs o) (ho : o.Sound)
    (ctx : BlockContext) :
    ∃ ns, closeFrames grammar source ctx fs = (ctx, ns) ∧ List.Forall₂ (Ends source) ns o.ended := by
  cases hf with
  | nothing => exact ⟨[], rfl, .nil⟩
  | one h =>
    obtain ⟨n, hn, hs⟩ := closeFrame_holds h ho ctx
    refine ⟨[n], ?_, hs⟩
    rw [closeFrames, closeFrames]
    dsimp only
    rw [h.addChildren_nil, hn]

/-! ### Lines that belong to code -/

variable {number start : Nat} {l : Bytes} {ls : List Bytes}

lemma CodeLines.concat {spans : List Span} {ms : List Bytes} {s : Span} (h : CodeLines source spans ms)
    (hs : s.Covers source (l ++ [Bytes.newline])) : CodeLines source (spans ++ [s]) (ms ++ [l]) :=
  List.rel_append h (.cons hs .nil)

structure Agrees (source : Bytes) (s : BlockState) (os : List Open) (o : Open) : Prop where
  clear : Clear s.context
  closed : List.Forall₂ (Ends source) s.closed os
  frames : HoldAll source s.frames o

lemma HoldAll.eq_nothing {o : Open} (h : HoldAll source [] o) : o = .nothing := by
  cases h
  rfl

lemma HoldAll.eq_nil {fs : List Frame} (h : HoldAll source fs .nothing) : fs = [] := by
  cases h with
  | nothing => rfl
  | one h => exact absurd rfl h.ne_nothing

/-- Blocks are about to be opened in the document, `left` being open so far. -/
def opening (ctx : BlockContext) (c : LineCursor) (left : List Frame) : OpeningState where
  context := ctx
  cursor := c
  holder := .document
  last := left.getLast?
  lastIsInHolder := left.length == 1
  continuable := (left.getLast?.map (·.block.isParagraph)).getD false

lemma openBlocks_eq (blank : Bool) (ctx : BlockContext) (c : LineCursor) (left : List Frame) :
    openBlocks grammar source blank ctx c (Holder.ofFrames [] left)
        (if left.isEmpty then ([] : List Frame).getLast? else left.getLast?) (left.length == 1) =
      (opening ctx c left).run grammar source blank (2 * c.rest.length + 1 + 1) := by
  cases left <;> rfl

variable {s : BlockState} {os : List Open} {left : List Frame} {o o' : Open} {c : LineCursor} {blank : Bool}

lemma openAfter_close (hc : Clear s.context) (hb : List.Forall₂ (Ends source) s.closed os)
    (hf : HoldAll source left o) (ho : o.Sound)
    (hr : Opens source (opening s.context c left)
      ((opening s.context c left).run grammar source blank (2 * c.rest.length + 1 + 1)) o')
    (hn : o' = .nothing → (opening s.context c left).continuable = true → Bytes.isBlank c.rest = true) :
    Agrees source (s.openAfter grammar source blank [] left c) (os ++ o.ended) o' ∧
      c.SameLine (s.openAfter grammar source blank [] left c).cursor := by
  rw [BlockState.openAfter, openBlocks_eq]
  generalize (opening s.context c left).run grammar source blank (2 * c.rest.length + 1 + 1) = r at hr
  have hlazy : (if r.opened.isEmpty && r.continuable then BlockState.continueParagraph? r.cursor left else none) =
      none := by
    split
    · rename_i he
      rw [Bool.and_eq_true, List.isEmpty_iff] at he
      obtain rfl := (he.1 ▸ hr.opened).eq_nothing
      have hblank := hn rfl (hr.continuable ▸ he.2)
      have hcur : r.cursor = c := hr.cursor rfl
      rw [BlockState.continueParagraph?, hcur, hblank]
      cases left.getLast? <;> simp
    · rfl
  obtain ⟨ns, hns, hshow⟩ := closeFrames_holds hf ho r.context
  have hset : r.settled = none := hr.settled
  simp only [hlazy, hset, hns, BlockState.attach, List.getLast?_nil, List.nil_append]
  exact ⟨⟨hr.clear hc, List.rel_append hb hshow, hr.opened⟩, hr.sameLine⟩

lemma isParagraph_of_holds {f : Frame} (h : Holds source f o) (hp : ∀ ps, o ≠ .paragraph ps) :
    f.block.isParagraph = false := by
  cases h with
  | paragraph => exact absurd rfl (hp _)
  | _ => rfl

lemma openAfter_start (hc : Clear s.context) (hb : List.Forall₂ (Ends source) s.closed os)
    (hf : HoldAll source left o) (ho : o.Sound) (hp : ∀ ps, o ≠ .paragraph ps)
    (hl : BlankLine l ∨ DeepLine l ∨ WordLine l ∨ FenceLine l)
    (hs : source.drop start = Bytes.unlines (l :: ls)) :
    Agrees source (s.openAfter grammar source blank [] left (.front number start (l :: ls)))
        (os ++ o.ended) (Open.start l) ∧
      (LineCursor.front number start (l :: ls)).SameLine
        (s.openAfter grammar source blank [] left (.front number start (l :: ls))).cursor := by
  have hcont : (opening s.context (.front number start (l :: ls)) left).continuable = false := by
    cases hf with
    | nothing => rfl
    | one h => exact isParagraph_of_holds h hp
  have hplace : (opening s.context (.front number start (l :: ls)) left).place.lastIsParagraph = false := by
    cases hf with
    | nothing => rfl
    | one h => exact isParagraph_of_holds h hp
  apply openAfter_close hc hb hf ho
  · refine run_finds rfl rfl (finds_start rfl rfl hcont hplace hl hs) (newline_notMem_line hl) ?_ blank _
    rintro rfl
    exact start_spaces 0
  · intro _ h
    rw [hcont] at h
    cases h

/-! ### Lines after a paragraph -/

lemma Holds.addLine {f : Frame} {ps : List Bytes} {p : Bytes} {span : Span}
    (h : Holds source f (.paragraph ps)) (hs : Carries source span p) :
    Holds source (f.addLine span) (.paragraph (ps ++ [p])) := by
  cases h with
  | paragraph h => exact .paragraph (List.rel_append h (.cons hs .nil))

lemma matchFrames_one {f : Frame} (lastIsParagraph : Bool) (ctx : BlockContext) :
    matchFrames source lastIsParagraph number ctx (.front number start (l :: ls)) 0 [] [f] =
      let ctx := { ctx with stats := ⟨number, 0, Bytes.isBlank l⟩ :: ctx.stats }
      if f.block.isParagraph then (ctx, .upTo [] [f] (.front number start (l :: ls)))
      else
        match Continuing.block source lastIsParagraph ctx f [] (.front number start (l :: ls)) with
        | (ctx, .close f c) => (ctx, .upTo [] [f] c)
        | (ctx, .keep f c container) =>
          if container then (ctx, .inside [f] c 0) else (ctx, .taken [f]) := by
  rw [matchFrames, LineCursor.peek?_front_cons]
  dsimp only
  rw [isBlank_line]
  split
  · rfl
  · generalize Continuing.block source lastIsParagraph _ f [] _ = verdict
    obtain ⟨ctx, ⟨f, c⟩ | ⟨f, c, container⟩⟩ := verdict
    · rfl
    · simp [matchFrames]

lemma drop_line (hs : source.drop start = Bytes.unlines (l :: ls)) :
    source.drop (start + (l.length + 1)) = Bytes.unlines ls := by
  rw [← List.drop_drop, hs, Bytes.unlines_cons]
  simp

lemma skipBlankLines_front (number : Nat) (hl : Open.nothing.AdmitsAll ls) (hs : source.drop start = Bytes.unlines ls)
    (fuel : Nat) (hfuel : ls.length ≤ fuel) (n : Nat) :
    ∃ number' start' ls' n', BlockState.skipBlankLines fuel (.front number start ls) n =
        (.front number' start' ls', n') ∧
      ls'.length ≤ ls.length ∧ (∀ l ∈ ls'.head?, Bytes.isBlank l = false) ∧
      Open.nothing.AdmitsAll ls' ∧ source.drop start' = Bytes.unlines ls' ∧
      Open.nothing.endings ls' = Open.nothing.endings ls := by
  induction ls generalizing number start fuel n with
  | nil =>
    refine ⟨number, start, [], n, ?_, by simp, by simp, hl, hs, rfl⟩
    cases fuel <;> rfl
  | cons l ls ih =>
    cases fuel with
    | zero => simp at hfuel
    | succ fuel =>
      rw [BlockState.skipBlankLines, LineCursor.peek?_front_cons]
      dsimp only
      rw [isBlank_line]
      by_cases hb : Bytes.isBlank l = true
      · have hstart : Open.start l = .nothing := by rw [Open.start, if_pos hb]
        have hadm : Open.nothing.AdmitsAll ls := by
          have h2 := hl.2
          rwa [step_nothing, hstart] at h2
        obtain ⟨number', start', ls', n', he, hlen, hrest⟩ := ih (number + 1) hadm (drop_line hs) fuel (by simpa using hfuel) (n + 1)
        refine ⟨number', start', ls', n', ?_, ?_, ?_⟩
        · rw [if_pos hb, LineCursor.nextLine_of_sameLine (.refl _), he]
        · simp
          omega
        · rw [Open.endings, Open.endedBy_nothing, step_nothing, hstart, List.nil_append]
          exact hrest
      · refine ⟨number, start, l :: ls, n, ?_, Nat.le_refl _, by simpa using hb, hl, hs, rfl⟩
        rw [if_neg hb]

lemma openAfter_nothing (blank : Bool) (number : Nat) (h : Agrees source s os .nothing)
    (hl : Open.nothing.Admits l) (hs : source.drop start = Bytes.unlines (l :: ls)) :
    Agrees source (s.openAfter grammar source blank [] [] (.front number start (l :: ls))) os (Open.start l) ∧
      (LineCursor.front number start (l :: ls)).SameLine
        (s.openAfter grammar source blank [] [] (.front number start (l :: ls))).cursor := by
  simpa [Open.ended] using openAfter_start h.clear h.closed .nothing trivial (by simp) hl hs

end MarkdownTidy.Plain
