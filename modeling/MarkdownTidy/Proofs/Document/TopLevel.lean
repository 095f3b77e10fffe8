import MarkdownTidy.Document.Parse
import MarkdownTidy.Proofs.Document.OpeningStates

/-! The children of a document while it is read. Once they cannot come to a single paragraph any more,
no later line changes that. -/

namespace MarkdownTidy

def outlook (ns : List Node) : List Bool :=
  (ns.filter fun n => n.kind != .footnoteList).map fun n => n.kind == .paragraph

def Varied (ns : List Node) : Prop := outlook ns ≠ [] ∧ outlook ns ≠ [true]

lemma outlook_append (ns ms : List Node) : outlook (ns ++ ms) = outlook ns ++ outlook ms := by
  simp [outlook]

lemma Varied.append {ns : List Node} (h : Varied ns) (ms : List Node) : Varied (ns ++ ms) := by
  obtain ⟨hne, hp⟩ := h
  rw [Varied, outlook_append]
  refine ⟨List.append_ne_nil_of_left_ne_nil hne _, fun h => ?_⟩
  rcases List.append_eq_singleton_iff.mp h with ⟨h0, -⟩ | ⟨h1, -⟩
  · exact hne h0
  · exact hp h1

lemma varied_of_mem {ns ms : List Node} (h : false ∈ outlook ms) : Varied (ns ++ ms) := by
  have hm : false ∈ outlook (ns ++ ms) := by
    rw [outlook_append]
    exact List.mem_append_right _ h
  refine ⟨List.ne_nil_of_mem hm, fun h => ?_⟩
  rw [h] at hm
  simp at hm

lemma varied_two {ns ms : List Node} (h : outlook ns ≠ []) (h' : outlook ms ≠ []) : Varied (ns ++ ms) := by
  rw [Varied, outlook_append]
  refine ⟨List.append_ne_nil_of_left_ne_nil h _, fun he => ?_⟩
  rcases List.append_eq_singleton_iff.mp he with ⟨h0, -⟩ | ⟨-, h0⟩
  · exact h h0
  · exact h' h0

/-- What an open block leaves behind in the document. -/
inductive Grade where
  | paragraph
  /-- Something that is no paragraph. -/
  | solid
  /-- Perhaps nothing. -/
  | passing
  deriving DecidableEq

def OpenBlock.grade : OpenBlock → Grade
  | .paragraph => .paragraph
  | .footnote _ | .frontMatter _ => .passing
  | _ => .solid

lemma OpenBlock.eq_paragraph_of_grade {b : OpenBlock} (h : b.grade = .paragraph) : b = .paragraph := by
  cases b <;> first | rfl | cases h

lemma OpenBlock.isParagraph_iff {b : OpenBlock} : b.isParagraph = true ↔ b.grade = .paragraph := by
  cases b <;> simp [isParagraph, grade]

/-! ### Closing -/

section Closing

variable {g : Grammar} {source : Bytes} {ctx : BlockContext} {f : Frame}

lemma kind_of_search? {seen spans : List Span} {above : Span} {found : Table.Found}
    (h : Table.search? source seen above spans = some found) : ∃ a, found.table.kind = .table a := by
  induction spans generalizing seen above with
  | nil => cases h
  | cons s spans ih =>
    simp only [Table.search?] at h
    split at h
    · exact ih h
    · split at h
      · cases h
      · cases h
        exact ⟨_, rfl⟩

lemma kind_of_find? {spans : List Span} {found : Table.Found} (h : Table.find? source spans = some found) :
    ∃ a, found.table.kind = .table a := by
  cases spans with
  | nil => cases h
  | cons s spans => exact kind_of_search? h

lemma settleParagraph_cases (lines : List Span) (blank : Bool) :
    (∃ kept, (settleParagraph g source ctx lines blank).2 = (some kept, [])) ∨
      false ∈ outlook (settleParagraph g source ctx lines blank).2.2 := by
  rw [settleParagraph]
  simp only
  split
  · exact .inr (by simp [outlook, Node.kind, Node.info])
  · split
    · exact .inl ⟨_, rfl⟩
    · rename_i found hf
      split at hf
      · obtain ⟨a, ha⟩ := kind_of_find? hf
        exact .inr (by simp [outlook, ha])
      · cases hf

lemma closeFrame_paragraph (h : f.block.grade = .paragraph) : outlook (closeFrame g source ctx f).2 ≠ [] := by
  have hs := @settleParagraph_cases g source ctx f.lines f.blankBefore
  rw [closeFrame, OpenBlock.eq_paragraph_of_grade h]
  generalize settleParagraph g source ctx f.lines f.blankBefore = settled at hs
  obtain ⟨ctx', _ | kept, after⟩ := settled
  · rcases hs with ⟨kept, he⟩ | hmem
    · cases he
    · exact List.ne_nil_of_mem hmem
  · simp [outlook, Node.kind, Node.info]

lemma closeFrame_solid (h : f.block.grade = .solid) : false ∈ outlook (closeFrame g source ctx f).2 := by
  rw [closeFrame]
  cases hb : f.block <;> rw [hb] at h <;> cases h
  case list marker start =>
    simp only
    split <;> simp [outlook, Node.kind, Node.info]
  all_goals simp [outlook, Node.kind, Node.info]

end Closing

/-! ### Going on with open blocks -/

section Matching

def Verdict.frame : Verdict → Frame
  | .close f _ => f
  | .keep f _ _ => f

variable {source : Bytes} {c : LineCursor} {f : Frame}

lemma Verdict.Of.grade {v : Verdict} (hv : v.Of c f) : v.frame.block.grade = f.block.grade := by
  cases hv with
  | closeHtml hb => simp only [frame, hb, OpenBlock.grade]
  | _ => rfl

def Match.frames? : Match → Option (List Frame)
  | .ended => none
  | .taken frames => some frames
  | .inside frames _ _ => some frames
  | .upTo kept left _ => some (kept ++ left)

lemma matchFrames_grades (last : Bool) (number : Nat) (ctx : BlockContext) (depth : Nat) (kept frames : List Frame) :
    ∀ fs ∈ (matchFrames source last number ctx c depth kept frames).2.frames?,
      fs.map (·.block.grade) = (kept ++ frames).map (·.block.grade) := by
  induction frames generalizing ctx c depth kept with
  | nil =>
    rintro _ ⟨⟩
    rw [List.append_nil]
  | cons f inner ih =>
    rw [matchFrames]
    cases c.peek? with
    | none => rintro _ ⟨⟩
    | some line =>
      simp only
      split
      · rintro _ ⟨⟩
        rfl
      · have hg := (@Continuing.of_block source c f last
          { ctx with stats := ⟨number, depth, Bytes.isBlank line⟩ :: ctx.stats } inner).grade
        generalize Continuing.block source last _ f inner c = verdict at hg
        obtain ⟨ctx', ⟨f', c'⟩ | ⟨f', c', container⟩⟩ := verdict
        · rintro _ ⟨⟩
          simpa [Verdict.frame] using hg
        · simp only
          split
          · rename_i hi
            rintro _ ⟨⟩
            obtain rfl : inner = [] := by simpa using (Bool.and_eq_true_iff.mp hi).2
            simpa [Verdict.frame] using hg
          · intro fs hfs
            rw [ih _ _ _ fs hfs]
            simpa [Verdict.frame] using hg

end Matching

/-! ### Opening blocks -/

structure Opening.Leaves (place : Place) (g : Grade) (o : Opened) : Prop where
  grade : o.block.grade = g
  takes : o.takesParagraph = true → g = .solid ∧ place.lastIsParagraph = true ∧ place.lastIsInHolder = true

def BlockRule.grade : BlockRule → Grade
  | .paragraph => .paragraph
  | .footnote | .frontMatter _ => .passing
  | _ => .solid

lemma Opening.Opens.leaves {source : Bytes} {place : Place} {c : LineCursor} {r : BlockRule} {o : Opened}
    (h : Opening.Opens source place c r o) : Opening.Leaves place r.grade o := by
  cases h with
  | setextHeading _ hlast hin => exact ⟨rfl, fun _ => ⟨rfl, hlast, hin⟩⟩
  | _ => exact ⟨rfl, fun ht => (Bool.false_ne_true ht).elim⟩

namespace OpeningState

variable {g : Grammar} {source : Bytes} {blank : Bool}

lemma Steps.opened {s : OpeningState} {r : Bool × OpeningState} (hr : Steps g source blank s r) :
    s.opened <+: r.2.opened := by
  cases hr with
  | ended | silent | defines => exact List.prefix_rfl
  | opens | underlines => exact List.prefix_append _ _

lemma opened_run (fuel : Nat) (s : OpeningState) : s.opened <+: (s.run g source blank fuel).opened :=
  run_induction (P := fun s' => s.opened <+: s'.opened) (fun hr h => h.trans hr.opened) List.prefix_rfl fuel

end OpeningState

def headGrade (frames : List Frame) : Option Grade := frames.head?.map (·.block.grade)

lemma headGrade_eq_of_isPrefix {fs fs' : List Frame} {g : Grade} (h : fs <+: fs') (hg : headGrade fs = some g) :
    headGrade fs' = some g := by
  obtain ⟨t, rfl⟩ := h
  cases fs with
  | nil => cases hg
  | cons f fs => exact hg

namespace OpeningState

variable {g : Grammar} {source : Bytes} {blank : Bool} {left : List Frame} {s : OpeningState}

inductive Settles (left : List Frame) (s : OpeningState) : Prop
  | pending (hs : s.settled = none)
      (hl : s.opened = [] → s.last = left.getLast? ∧ s.lastIsInHolder = (left.length == 1))
  | done {nodes : List Node} (hs : s.settled = some nodes) (hl : s.last = none) {f : Frame} (hleft : left = [f])
      (hf : f.block.grade = .paragraph) (hn : false ∈ outlook nodes ∨ headGrade s.opened = some .solid)

lemma settles_start (ctx : BlockContext) (c : LineCursor) (left : List Frame) : (start ctx c [] left).Settles left := by
  refine .pending rfl fun _ => ⟨?_, rfl⟩
  cases left <;> rfl

lemma takes_paragraph {line : Bytes} {ctx : BlockContext} {o : Opened} {p : Frame}
    (hf : Opening.firstOf source s.place s.cursor s.context (s.rules g line) = (ctx, some o))
    (htakes : o.takesParagraph = true) (hlast : s.last = some p) :
    s.opened = [] ∧ p.block.grade = .paragraph ∧ s.lastIsInHolder = true ∧ o.block.grade = .solid := by
  obtain ⟨r, -, hr⟩ := Opening.opens_of_firstOf hf
  obtain ⟨hsolid, hp, hin⟩ := hr.leaves.takes htakes
  have hopened : s.opened = [] := by
    rw [place] at hin
    split at hin
    · cases hin
    · exact List.getLast?_eq_none_iff.mp ‹_›
  have hplace : s.place = ⟨s.holder, p.block.isList, p.block.isParagraph, s.lastIsInHolder⟩ := by
    rw [place, hopened, hlast]
    rfl
  rw [hplace] at hp hin
  exact ⟨hopened, OpenBlock.isParagraph_iff.mp hp, hin, hr.leaves.grade.trans hsolid⟩

lemma Settles.eq_singleton (h : s.Settles left) {p : Frame} (hopened : s.opened = []) (hin : s.lastIsInHolder = true)
    (hlast : s.last = some p) : left = [p] := by
  cases h with
  | done _ hl =>
    rw [hl] at hlast
    cases hlast
  | pending _ hl =>
    obtain ⟨hlast', hin'⟩ := hl hopened
    rw [hin] at hin'
    obtain ⟨f, rfl⟩ := List.length_eq_one_iff.mp (by simpa using hin'.symm)
    rw [hlast] at hlast'
    exact congrArg (fun f => [f]) (Option.some.inj hlast').symm

lemma Steps.settles {r : Bool × OpeningState} (hr : Steps g source blank s r) (h : s.Settles left) : r.2.Settles left := by
  cases hr with
  | ended => exact h
  | silent =>
    cases h with
    | pending hs hl => exact .pending hs hl
    | done hs hl hleft hf hn => exact .done hs hl hleft hf hn
  | opens =>
    -- A block that is put in place behind others keeps the first of them.
    cases h with
    | pending hs hl => exact .pending hs fun ho => absurd ho (by simp [push])
    | done hs hl hleft hf hn =>
      exact .done hs hl hleft hf (hn.imp_right (headGrade_eq_of_isPrefix (List.prefix_append _ _)))
  | @defines line ctx ctx' o p nodes _ hf htakes hlast hp =>
    obtain ⟨hopened, hgrade, hin, -⟩ := takes_paragraph hf htakes hlast
    refine .done rfl rfl (h.eq_singleton hopened hin hlast) hgrade (.inl ?_)
    rcases @settleParagraph_cases g source ctx (trimLines source p.lines) p.blankBefore with ⟨kept, he⟩ | hmem
    · rw [hp] at he
      cases he
    · rwa [hp] at hmem
  | underlines _ hf htakes hlast =>
    obtain ⟨hopened, hgrade, hin, hsolid⟩ := takes_paragraph hf htakes hlast
    refine .done rfl rfl (h.eq_singleton hopened hin hlast) hgrade (.inr ?_)
    simp [push, afterParagraph, hopened, headGrade, hsolid]

lemma Settles.run (h : s.Settles left) (fuel : Nat) : (s.run g source blank fuel).Settles left :=
  run_induction Steps.settles h fuel

end OpeningState

/-! ### Reading lines -/

def Spoiled (closed : List Node) (frames : List Frame) : Prop :=
  Varied closed ∨ headGrade frames = some .solid ∨ outlook closed ≠ [] ∧ headGrade frames = some .paragraph

lemma Spoiled.of_headGrade {closed : List Node} {fs fs' : List Frame} (h : Spoiled closed fs)
    (he : headGrade fs' = headGrade fs) : Spoiled closed fs' := by
  rwa [Spoiled, he]

lemma headGrade_of_map {fs fs' : List Frame} (h : fs'.map (·.block.grade) = fs.map (·.block.grade)) :
    headGrade fs' = headGrade fs := by
  rw [headGrade, headGrade, ← List.head?_map, h, List.head?_map]

lemma headGrade_append {fs : List Frame} (h : fs ≠ []) (fs' : List Frame) : headGrade (fs ++ fs') = headGrade fs := by
  rw [headGrade, List.head?_append_of_ne_nil _ h, headGrade]

lemma Spoiled.close {closed : List Node} {frames : List Frame} (h : Spoiled closed frames) (g : Grammar)
    (source : Bytes) (ctx : BlockContext) : Varied (closed ++ (closeFrames g source ctx frames).2) := by
  cases frames with
  | nil =>
    rcases h with h | h | ⟨-, h⟩
    · exact h.append _
    · cases h
    · cases h
  | cons f inner =>
    rw [closeFrames]
    rcases h with h | h | ⟨hc, h⟩
    · exact h.append _
    · exact varied_of_mem (closeFrame_solid (by simpa [headGrade, Frame.addChildren] using h))
    · exact varied_two hc (closeFrame_paragraph (by simpa [headGrade, Frame.addChildren] using h))

namespace BlockState

variable {g : Grammar} {source : Bytes}

lemma grades_continueParagraph? {c : LineCursor} {left left' : List Frame} (h : continueParagraph? c left = some left') :
    left'.map (·.block.grade) = left.map (·.block.grade) := by
  rw [continueParagraph?] at h
  split at h
  · rename_i f hf
    split at h
    · obtain rfl := Option.some.inj h
      obtain ⟨fs, rfl⟩ := List.getLast?_eq_some_iff.mp hf
      simp [Frame.addLine]
    · cases h
  · cases h

lemma openAfter_spoiled {s : BlockState} {kept left : List Frame} (h : Spoiled s.closed (kept ++ left)) (blank : Bool)
    (c : LineCursor) :
    Spoiled (s.openAfter g source blank kept left c).closed (s.openAfter g source blank kept left c).frames := by
  have hsettles : kept = [] →
      (OpeningState.run g source blank (2 * c.rest.length + 2) (.start s.context c kept left)).Settles left := by
    rintro rfl
    exact (OpeningState.settles_start s.context c left).run _
  rw [openAfter, OpeningState.openBlocks_eq_run]
  generalize OpeningState.run g source blank (2 * c.rest.length + 2) (.start s.context c kept left) = r at hsettles
  simp only
  split
  · rename_i left' hlazy
    split at hlazy
    · apply h.of_headGrade
      apply headGrade_of_map
      rw [List.map_append, List.map_append, grades_continueParagraph? hlazy]
    · cases hlazy
  · rw [attach]
    split
    · rename_i hlast
      obtain rfl := List.getLast?_eq_none_iff.mp hlast
      cases hsettles rfl with
      | pending hs => simp only [hs]; exact .inl (h.close g source _)
      | done hs hl hleft hf hn =>
        simp only [hs]
        exact hn.imp varied_of_mem .inl
    · rename_i f hf
      obtain ⟨fs, rfl⟩ := List.getLast?_eq_some_iff.mp hf
      apply h.of_headGrade
      rw [headGrade_append (by simp), headGrade_append (by simp : fs ++ [f] ≠ [])]
      apply headGrade_of_map
      simp [Frame.addChildren]

lemma readLine_spoiled {s : BlockState} (h : Spoiled s.closed s.frames) :
    Spoiled (s.readLine g source).closed (s.readLine g source).frames := by
  have hg := @matchFrames_grades source s.cursor ((s.frames.getLast?.map (·.block.isParagraph)).getD false)
    s.cursor.number s.context 0 [] s.frames
  rw [readLine]
  generalize matchFrames source _ s.cursor.number s.context s.cursor 0 [] s.frames = result at hg
  obtain ⟨ctx, _ | frames | ⟨frames, c, depth⟩ | ⟨kept, left, c⟩⟩ := result
  · exact h
  · exact h.of_headGrade (headGrade_of_map (hg _ rfl))
  · have hs := h.of_headGrade (headGrade_of_map (hg _ rfl))
    rw [← List.append_nil frames] at hs
    exact @openAfter_spoiled g source { s with context := ctx } frames [] hs _ c
  · have hs := h.of_headGrade (headGrade_of_map (hg _ rfl))
    exact @openAfter_spoiled g source { s with context := ctx } kept left hs _ c

lemma step_spoiled {s : BlockState} (h : Spoiled s.closed s.frames) :
    Spoiled (s.step g source).2.closed (s.step g source).2.frames := by
  simp only [step]
  cases hf : s.frames.isEmpty with
  | true =>
    simp only [if_true]
    rcases skipBlankLines (s.cursor.later.length + 1) s.cursor 0 with ⟨c, skipped⟩
    cases c.peek? with
    | none => exact h
    | some line =>
      have ho := fun ctx blank => @openAfter_spoiled g source { s with context := ctx } [] []
        (by rw [List.isEmpty_iff] at hf; simpa [hf] using h) blank c
      generalize (if skipped != 0 then { s.context with stats := [] } else s.context) = ctx
      simp only
      split
      · exact ho _ _
      · exact ho _ _
  | false =>
    simp only [Bool.false_eq_true, if_false]
    cases s.cursor.peek? with
    | none => exact .inl (h.close g source _)
    | some line => exact readLine_spoiled h

lemma frames_of_step {s : BlockState} (h : (s.step g source).1 = false) : (s.step g source).2.frames = [] := by
  revert h
  simp only [step]
  cases hf : s.frames.isEmpty with
  | true =>
    simp only [if_true]
    rcases skipBlankLines (s.cursor.later.length + 1) s.cursor 0 with ⟨c, skipped⟩
    cases c.peek? with
    | none => exact fun _ => List.isEmpty_iff.mp hf
    | some line =>
      generalize (if skipped != 0 then { s.context with stats := [] } else s.context) = ctx
      simp only
      split
      · exact fun _ => List.isEmpty_iff.mp ‹_›
      · exact fun h => absurd h (by simp)
  | false =>
    simp only [Bool.false_eq_true, if_false]
    cases s.cursor.peek? with
    | none => exact fun _ => rfl
    | some line => exact fun h => absurd h (by simp)

lemma readLines_varied {s : BlockState} (h : Spoiled s.closed s.frames) (fuel : Nat) :
    Varied (s.readLines g source fuel).closed := by
  induction fuel generalizing s with
  | zero => exact h.close g source _
  | succ fuel ih =>
    rw [readLines_succ]
    split
    · exact ih (step_spoiled h)
    · rename_i hstop
      have hs := @step_spoiled g source _ h
      rw [frames_of_step (by simpa using hstop)] at hs
      rcases hs with hs | hs | ⟨-, hs⟩
      · exact hs
      · cases hs
      · cases hs

end BlockState

/-! ### From the blocks to the tree -/

lemma kind_parseDocument (g : Grammar) (names : MarkdownAttributes) (source : Bytes) :
    (parseDocument g names source).1.kind = .document := by
  have hplace : ∀ (notes : List Node) (indices links : List Nat) (doc : Node), doc.kind = .document →
      (Footnotes.place notes indices links doc).kind = .document := by
    rintro notes indices links ⟨info, children⟩ hk
    replace hk : info.kind = .document := hk
    unfold Footnotes.place
    split
    · exact hk
    · dsimp only
      split <;> simp [Footnotes.withoutLists, Footnotes.countNode, Node.kind, Node.info,
        Node.withChildren, hk]
  refine hplace _ _ _ _ ?_
  unfold RawDocument.resolvePipes
  split <;> rfl

lemma outlook_eq_of_kinds {ns ms : List Node} (h : ns.map Node.kind = ms.map Node.kind) : outlook ns = outlook ms := by
  have hk : ∀ ns : List Node, outlook ns =
      ((ns.map Node.kind).filter (· != .footnoteList)).map (· == .paragraph) := by
    intro ns
    simp [outlook, List.filter_map, Function.comp_def]
  rw [hk, hk, h]

lemma kinds_fillNodes (footnotes ns : List Node) :
    (Footnotes.fillNodes footnotes ns).map Node.kind = ns.map Node.kind := by
  induction ns with
  | nil => rfl
  | cons n ns ih =>
    obtain ⟨info, children⟩ := n
    rw [Footnotes.fillNodes, List.map_cons, List.map_cons, ih, Footnotes.fillNode]
    split <;> rfl

lemma kind_readText (t : TextScope) (holder : Kind) (first : Bool) (m : InlineMemory) (n : Node) :
    (readText t holder first m n).1.kind = n.kind := by
  obtain ⟨info, children⟩ := n
  rw [readText]
  simp only
  split <;> rfl

lemma kinds_readTexts (t : TextScope) (holder : Kind) (first : Bool) (m : InlineMemory) (ns : List Node) :
    (readTexts t holder first m ns).1.map Node.kind = ns.map Node.kind := by
  induction ns generalizing first m with
  | nil => rfl
  | cons n ns ih => simp only [readTexts, List.map_cons, kind_readText, ih]

lemma kind_unhidePipes (pipes : List Nat) (inCell : Bool) (n : Node) : (unhidePipes pipes inCell n).kind = n.kind := by
  obtain ⟨info, children⟩ := n
  unfold unhidePipes
  split <;> rfl

lemma kinds_unhidePipesIn (pipes : List Nat) (inCell : Bool) (ns : List Node) :
    (unhidePipesIn pipes inCell ns).map Node.kind = ns.map Node.kind := by
  induction ns with
  | nil => rfl
  | cons n ns ih => rw [unhidePipesIn, List.map_cons, List.map_cons, ih, kind_unhidePipes]

lemma kinds_resolvePipes (r : RawDocument) (h : r.document.kind = .document) :
    r.resolvePipes.document.children.map Node.kind = r.document.children.map Node.kind := by
  rw [RawDocument.resolvePipes]
  split
  · rfl
  · rcases hd : r.document with ⟨info, children⟩
    rw [hd] at h
    have hk : info.kind = .document := h
    simp only [unhidePipes, hk]
    exact kinds_unhidePipesIn _ _ _

lemma outlook_cons (n : Node) (ns : List Node) : outlook (n :: ns) =
    if n.kind = .footnoteList then outlook ns else (n.kind == .paragraph) :: outlook ns := by
  by_cases h : n.kind = .footnoteList <;> simp [outlook, h]

lemma outlook_listsRemoved (ns : List Node) : outlook (Footnotes.listsRemoved ns) = outlook ns := by
  induction ns with
  | nil => rfl
  | cons n ns ih =>
    rw [Footnotes.listsRemoved, outlook_cons n]
    obtain ⟨info, children⟩ := n
    split
    · rename_i hk
      rw [if_pos hk, ih]
    · rename_i hk
      rw [if_neg hk, outlook_cons, ih]
      exact if_neg hk

lemma outlook_countNodes (links : List Nat) (ns : List Node) : outlook (Footnotes.countNodes links ns) = outlook ns := by
  induction ns with
  | nil => rfl
  | cons n ns ih =>
    obtain ⟨⟨kind, lines, blank, attributes⟩, children⟩ := n
    rw [Footnotes.countNodes, outlook_cons, outlook_cons, ih, Footnotes.countNode]
    cases kind <;> rfl

lemma outlook_place (footnotes : List Node) (indices links : List Nat) (doc : Node) :
    outlook (Footnotes.place footnotes indices links doc).children = outlook doc.children := by
  obtain ⟨info, children⟩ := doc
  have hbody : outlook (Footnotes.countNode links (Footnotes.withoutLists (.mk info children))).children =
      outlook children := by
    rw [Footnotes.withoutLists, Footnotes.countNode]
    exact (outlook_countNodes _ _).trans (outlook_listsRemoved _)
  rw [Footnotes.place]
  split
  · rfl
  · simp only
    split
    · exact hbody
    · exact (outlook_append _ _).trans ((List.append_nil _).trans hbody)

lemma outlook_parseDocument (g : Grammar) (names : MarkdownAttributes) (source : Bytes) :
    outlook (parseDocument g names source).1.children = outlook (readBlocks g names source).1 := by
  rw [parseDocument, RawDocument.finish]
  simp only [RawDocument.placeFootnotes, outlook_place]
  rw [outlook_eq_of_kinds (kinds_resolvePipes _ rfl)]
  refine outlook_eq_of_kinds ?_
  rw [readDocument]
  exact (kinds_readTexts _ _ _ _ _).trans (kinds_fillNodes _ _)

lemma kinds_parseDocument {g : Grammar} {names : MarkdownAttributes} {source : Bytes}
    (h : (readBlocks g names source).2.footnotes = []) :
    (parseDocument g names source).1.children.map Node.kind = (readBlocks g names source).1.map Node.kind := by
  have hnotes : (readDocument g names source).resolvePipes.footnotes = [] := by
    rw [RawDocument.resolvePipes]
    split <;> exact h
  rw [parseDocument, RawDocument.finish]
  simp only [RawDocument.placeFootnotes, Footnotes.place, hnotes, List.isEmpty_nil, if_true]
  rw [kinds_resolvePipes _ rfl, readDocument]
  exact (kinds_readTexts _ _ _ _ _).trans (kinds_fillNodes _ _)

end MarkdownTidy
