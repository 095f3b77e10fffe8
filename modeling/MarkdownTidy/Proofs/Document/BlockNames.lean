import MarkdownTidy.Pipeline.Basic
import MarkdownTidy.Proofs.Document.OpeningStates
import MarkdownTidy.Proofs.Outcomes
import MarkdownTidy.Proofs.Shortcode.SharedNames

/-! Reading blocks with different names. Only shortcodes ask the shared set, and they get the same answer
from every spreading set, so the blocks of a source do not depend on what the set holds. Neither does
anything but a shortcode look behind the end of the source. -/

namespace MarkdownTidy

namespace BlockContext

def withMarks (ctx : BlockContext) (m : MarkdownAttributes) (o : Option Overrun) : BlockContext :=
  { ctx with names := m, overrun? := o }

def Alike (a b : BlockContext) : Prop :=
  a.names.spread = true ∧ ∃ m : MarkdownAttributes, m.spread = true ∧ b = a.withMarks m a.overrun?

end BlockContext

def NameFree {α : Type} (f : BlockContext → BlockContext × α) : Prop :=
  ∀ ctx m o, f (ctx.withMarks m o) = ((f ctx).1.withMarks m o, (f ctx).2)

def NameBlind {α : Type} (f : BlockContext → BlockContext × α) : Prop :=
  ∀ a b : BlockContext, a.Alike b → (f a).1.Alike (f b).1 ∧ (f a).2 = (f b).2

section NameFree

variable {α : Type} {f : BlockContext → BlockContext × α}

-- Putting back what a context has already shows that it is left alone.

lemma NameFree.names (hf : NameFree f) (ctx : BlockContext) : (f ctx).1.names = ctx.names :=
  congrArg (fun x => x.1.names) (hf ctx ctx.names ctx.overrun?)

lemma NameFree.overrun? (hf : NameFree f) (ctx : BlockContext) : (f ctx).1.overrun? = ctx.overrun? :=
  congrArg (fun x => x.1.overrun?) (hf ctx ctx.names ctx.overrun?)

lemma NameFree.nameBlind (hf : NameFree f) : NameBlind f := by
  rintro a b ⟨ha, m, hm, rfl⟩
  rw [hf a m, ← hf.overrun? a]
  exact ⟨⟨hf.names a ▸ ha, m, hm, rfl⟩, rfl⟩

end NameFree

section Closing

variable (g : Grammar) (source : Bytes)

lemma settleParagraph_nameFree (lines : List Span) (blank : Bool) :
    NameFree fun ctx => settleParagraph g source ctx lines blank := by
  intro ctx m o
  simp only [settleParagraph]
  split
  · rfl
  · split <;> rfl

lemma headingAttributes_nameFree (lines : List Span) :
    NameFree fun ctx => headingAttributes g source ctx lines := by
  intro ctx m o
  simp only [headingAttributes]
  split <;> rfl

lemma closeFrame_nameFree (f : Frame) : NameFree fun ctx => closeFrame g source ctx f := by
  intro ctx m o
  obtain ⟨block, blank, lines, children⟩ := f
  cases block with
  | paragraph =>
    have h := settleParagraph_nameFree g source lines blank ctx m o
    simp only at h
    simp only [closeFrame, h]
    rcases settleParagraph g source ctx lines blank with ⟨ctx', _ | kept, after⟩ <;> rfl
  | heading level =>
    have h := headingAttributes_nameFree g source lines ctx m o
    simp only at h
    simp only [closeFrame, h]
  | list marker start =>
    simp only [closeFrame]
    split <;> rfl
  | frontMatter problem? =>
    simp only [closeFrame]
    cases problem? (spansValue source lines) <;> rfl
  | _ => rfl

lemma closeFrames_nameFree (frames : List Frame) :
    NameFree fun ctx => closeFrames g source ctx frames := by
  intro ctx m o
  induction frames with
  | nil => rfl
  | cons f inner ih =>
    simp only at ih
    simp only [closeFrames, ih]
    exact closeFrame_nameFree g source _ _ m o

end Closing

section Continuing

open Continuing

lemma list_nameFree (last : Bool) (f : Frame) (marker : UInt8) (offset : Nat) (empty : Bool)
    (c : LineCursor) :
    NameFree fun ctx => Continuing.list last ctx f marker offset empty c := by
  intro ctx m o
  simp only [Continuing.list]
  split
  · split <;> rfl
  · split
    · cases ListMarker.read? c.rest with
      | none => rfl
      | some marker' =>
        simp only
        split
        · split
          · rfl
          · split <;> rfl
        · rfl
    · rfl

lemma listItem_nameFree (f : Frame) (offset : Nat) (empty : Bool) (c : LineCursor) :
    NameFree fun ctx => Continuing.listItem ctx f offset empty c := by
  intro ctx m o
  have he : (ctx.withMarks m o).emptyItem = ctx.emptyItem := rfl
  simp only [Continuing.listItem, he]
  split
  · rfl
  · split
    · split
      · rfl
      · split <;> rfl
    · rfl

lemma block_nameFree (source : Bytes) (last : Bool) (f : Frame) (inner : List Frame)
    (c : LineCursor) : NameFree fun ctx => Continuing.block source last ctx f inner c := by
  intro ctx m o
  obtain ⟨block, blank, lines, children⟩ := f
  cases block with
  | list marker start => exact list_nameFree _ _ _ _ _ _ ctx m o
  | listItem offset => exact listItem_nameFree _ _ _ _ ctx m o
  | blockquote =>
    simp only [Continuing.block]
    split <;> rfl
  | _ => rfl

lemma matchFrames_nameFree (source : Bytes) (last : Bool) (number : Nat) (c : LineCursor)
    (depth : Nat) (kept left : List Frame) :
    NameFree fun ctx => matchFrames source last number ctx c depth kept left := by
  intro ctx m o
  induction left generalizing ctx c depth kept with
  | nil => rfl
  | cons f inner ih =>
    simp only [matchFrames]
    cases c.peek? with
    | none => rfl
    | some line =>
      simp only
      split
      · rfl
      · have h := block_nameFree source last f inner c
          { ctx with stats := ⟨number, depth, Bytes.isBlank line⟩ :: ctx.stats } m o
        simp only [BlockContext.withMarks] at h ⊢
        rw [h]
        rcases Continuing.block source last _ f inner c with ⟨ctx', ⟨f', c'⟩ | ⟨f', c', container⟩⟩
        · rfl
        · simp only
          split
          · rfl
          · exact ih ..

end Continuing

section Opening

variable (source : Bytes)

lemma tokenize_sameAnswer (s : ShortcodeSource) {m n : MarkdownAttributes}
    (hm : m.spread = true) (hn : n.spread = true) (value : Bytes) :
    Shortcode.SameAnswer (Opening.tokenize s m value) (Opening.tokenize s n value) := by
  rw [Opening.tokenize, Opening.tokenize]
  cases s.own with
  | none => exact Shortcode.tokenize?_sameAnswer s.reader hm hn value
  | some own => exact ⟨rfl, hm, hn⟩

lemma shortcodeAt_sameAnswer (s : ShortcodeSource) (holder : Holder) {m n : MarkdownAttributes}
    (hm : m.spread = true) (hn : n.spread = true) (c : LineCursor) :
    Shortcode.SameAnswer (Opening.shortcodeAt s source holder m c)
      (Opening.shortcodeAt s source holder n c) := by
  rw [Opening.shortcodeAt, Opening.shortcodeAt]
  cases Opening.blockOffset? c with
  | none => exact ⟨rfl, hm, hn⟩
  | some pos =>
    obtain ⟨he, hm', hn'⟩ := tokenize_sameAnswer s hm hn
      (if holder == .document then source.drop (c.span.start + pos) else c.rest.drop pos)
    exact ⟨congrArg (Option.map fun r => (r.2, c.span.start + pos + r.1)) he, hm', hn'⟩

lemma shortcode_sameAnswer (s : ShortcodeSource) (holder : Holder) {m n : MarkdownAttributes}
    (hm : m.spread = true) (hn : n.spread = true) (c : LineCursor) :
    Shortcode.SameAnswer (Opening.shortcode s source holder m c)
      (Opening.shortcode s source holder n c) := by
  obtain ⟨he, hm', hn'⟩ := shortcodeAt_sameAnswer source s holder hm hn c
  exact ⟨congrArg (Option.bind · _) he, hm', hn'⟩

lemma shortcodeOverrun?_eq (s : ShortcodeSource) (holder : Holder) {m n : MarkdownAttributes}
    (hm : m.spread = true) (hn : n.spread = true) (c : LineCursor) :
    Opening.shortcodeOverrun? s source holder m c = Opening.shortcodeOverrun? s source holder n c :=
  congrArg (Option.bind · _) (shortcodeAt_sameAnswer source s holder hm hn c).1

lemma try_nameBlind (place : Place) (c : LineCursor) (r : BlockRule) :
    NameBlind fun ctx => Opening.try_ source place ctx c r := by
  rintro a b ⟨ha, m, hm, rfl⟩
  cases r with
  | shortcode s =>
    obtain ⟨he, ha', hm'⟩ := shortcode_sameAnswer source s place.holder ha hm c
    have hoverrun := shortcodeOverrun?_eq source s place.holder ha hm c
    refine ⟨⟨ha', _, hm', ?_⟩, he⟩
    simp only [Opening.try_, BlockContext.withMarks, hoverrun]
  | list =>
    have hi : (a.withMarks m a.overrun?).atNewItem = a.atNewItem := rfl
    simp only [Opening.try_, hi]
    by_cases hl : (place.lastIsList || a.atNewItem) = true
    · rw [if_pos hl, if_pos hl]
      exact ⟨⟨ha, m, hm, rfl⟩, rfl⟩
    · rw [if_neg hl, if_neg hl]
      cases Opening.list place c <;> exact ⟨⟨ha, m, hm, rfl⟩, rfl⟩
  | listItem =>
    simp only [Opening.try_]
    cases Opening.listItem place c <;> exact ⟨⟨ha, m, hm, rfl⟩, rfl⟩
  | _ => exact ⟨⟨ha, m, hm, rfl⟩, rfl⟩

lemma firstOf_nameBlind (place : Place) (c : LineCursor) (rules : List BlockRule) :
    NameBlind fun ctx => Opening.firstOf source place c ctx rules := by
  intro a b hab
  induction rules generalizing a b with
  | nil => exact ⟨hab, rfl⟩
  | cons r rules ih =>
    have h := try_nameBlind source place c r a b hab
    revert h
    simp only [Opening.firstOf]
    rcases Opening.try_ source place a c r with ⟨a', x⟩
    rcases Opening.try_ source place b c r with ⟨b', y⟩
    rintro ⟨h, rfl⟩
    cases x with
    | none => exact ih a' b' h
    | some o => exact ⟨h, rfl⟩

end Opening

namespace OpeningState

def Alike (s t : OpeningState) : Prop :=
  s.context.Alike t.context ∧ t = { s with context := t.context }

variable (g : Grammar) (source : Bytes)

lemma run_alike (blank : Bool) (fuel : Nat) {s t : OpeningState} (h : s.Alike t) :
    (run g source blank fuel s).Alike (run g source blank fuel t) := by
  induction fuel generalizing s t with
  | zero => exact h
  | succ fuel ih =>
    obtain ⟨hc, ht⟩ := h
    generalize t.context = b at hc ht
    subst ht
    simp only [run]
    cases s.cursor.peek? with
    | none => exact ⟨hc, rfl⟩
    | some line =>
      simp only
      split
      · exact ⟨hc, rfl⟩
      · have hplace : place { s with context := b } = s.place := rfl
        have hrules : rules g { s with context := b } line = s.rules g line := rfl
        have h := firstOf_nameBlind source s.place s.cursor (s.rules g line) s.context b hc
        revert h
        simp only [hplace, hrules]
        rcases Opening.firstOf source s.place s.cursor s.context _ with ⟨a', x⟩
        rcases Opening.firstOf source s.place s.cursor b _ with ⟨b', y⟩
        rintro ⟨hc', rfl⟩
        cases x with
        | none => exact ⟨hc', rfl⟩
        | some o =>
          simp only
          cases o.takesParagraph with
          | false =>
            simp only
            split
            · exact ih ⟨hc', rfl⟩
            · exact ⟨hc', rfl⟩
          | true =>
            cases s.last with
            | none =>
              simp only
              split
              · exact ih ⟨hc', rfl⟩
              · exact ⟨hc', rfl⟩
            | some p =>
              -- The paragraph that the heading takes its text from is settled first.
              have h := (settleParagraph_nameFree g source (trimLines source p.lines)
                p.blankBefore).nameBlind a' b' hc'
              revert h
              simp only
              rcases settleParagraph g source a' _ _ with ⟨a'', kept, after⟩
              rcases settleParagraph g source b' _ _ with ⟨b'', kept', after'⟩
              rintro ⟨hc'', he⟩
              obtain ⟨rfl, rfl⟩ := Prod.mk.inj he
              cases kept with
              | none => exact ih ⟨hc'', rfl⟩
              | some lines => exact ⟨hc'', rfl⟩

end OpeningState

namespace BlockState

def Alike (s t : BlockState) : Prop :=
  s.context.Alike t.context ∧ t = { s with context := t.context }

variable (g : Grammar) (source : Bytes)

lemma finish_alike {s t : BlockState} (h : s.Alike t) :
    (s.finish g source).Alike (t.finish g source) := by
  obtain ⟨hc, ht⟩ := h
  generalize t.context = b at hc ht
  subst ht
  obtain ⟨hc', he⟩ := (closeFrames_nameFree g source s.frames).nameBlind s.context b hc
  simp only at hc' he
  refine ⟨hc', ?_⟩
  simp only [finish, he]

lemma openAfter_alike (blank : Bool) (kept left : List Frame) (c : LineCursor) {s t : BlockState}
    (h : s.Alike t) :
    (openAfter g source s blank kept left c).Alike (openAfter g source t blank kept left c) := by
  obtain ⟨hc, ht⟩ := h
  generalize t.context = b at hc ht
  subst ht
  have ho : (openBlocks g source blank s.context c (Holder.ofFrames kept left)
      (if left.isEmpty then kept.getLast? else left.getLast?) (left.length == 1)).Alike
      (openBlocks g source blank b c (Holder.ofFrames kept left)
        (if left.isEmpty then kept.getLast? else left.getLast?) (left.length == 1)) :=
    OpeningState.run_alike g source blank _ ⟨hc, rfl⟩
  revert ho
  simp only [openAfter]
  generalize openBlocks g source blank s.context c _ _ _ = o
  generalize openBlocks g source blank b c _ _ _ = o'
  rintro ⟨hc', ho'⟩
  generalize o'.context = b' at hc' ho'
  subst ho'
  simp only
  split
  · exact ⟨hc', rfl⟩
  · cases o.settled with
    | some nodes =>
      simp only [attach]
      cases kept.getLast? <;> exact ⟨hc', rfl⟩
    | none =>
      have h := (closeFrames_nameFree g source left).nameBlind o.context b' hc'
      revert h
      simp only
      rcases closeFrames g source o.context left with ⟨a'', nodes⟩
      rcases closeFrames g source b' left with ⟨b'', nodes'⟩
      rintro ⟨hc'', rfl⟩
      simp only [attach]
      cases kept.getLast? <;> exact ⟨hc'', rfl⟩

lemma blankBefore_eq {a b : BlockContext} (h : a.Alike b) (line level : Nat) :
    b.blankBefore line level = a.blankBefore line level := by
  obtain ⟨-, m, -, rfl⟩ := h
  rfl

lemma readLine_alike {s t : BlockState} (h : s.Alike t) :
    (s.readLine g source).Alike (t.readLine g source) := by
  obtain ⟨hc, ht⟩ := h
  generalize t.context = b at hc ht
  subst ht
  have h := (matchFrames_nameFree source
    ((s.frames.getLast?.map (·.block.isParagraph)).getD false) s.cursor.number s.cursor 0 []
    s.frames).nameBlind s.context b hc
  revert h
  simp only [readLine]
  rcases matchFrames source _ _ s.context s.cursor 0 [] s.frames with ⟨a', x⟩
  rcases matchFrames source _ _ b s.cursor 0 [] s.frames with ⟨b', y⟩
  rintro ⟨hc', rfl⟩
  cases x with
  | ended => exact ⟨hc', rfl⟩
  | taken frames => exact ⟨hc', rfl⟩
  | inside frames c depth =>
    simp only [blankBefore_eq hc']
    exact openAfter_alike g source _ _ _ _ ⟨hc', rfl⟩
  | upTo kept left c =>
    simp only [blankBefore_eq hc']
    exact openAfter_alike g source _ _ _ _ ⟨hc', rfl⟩

lemma readLines_alike (fuel : Nat) {s t : BlockState} (h : s.Alike t) :
    (s.readLines g source fuel).Alike (t.readLines g source fuel) := by
  induction fuel generalizing s t with
  | zero => exact finish_alike g source h
  | succ fuel ih =>
    have hs := h
    obtain ⟨hc, ht⟩ := h
    generalize t.context = b at hc ht
    subst ht
    simp only [readLines]
    split
    · rcases skipBlankLines (s.cursor.later.length + 1) s.cursor 0 with ⟨c, skipped⟩
      simp only
      cases c.peek? with
      | none => exact hs
      | some line =>
        have hfresh : (if skipped != 0 then { s.context with stats := [] } else s.context).Alike
            (if skipped != 0 then { b with stats := [] } else b) := by
          split
          · obtain ⟨ha, m, hm, rfl⟩ := hc
            exact ⟨ha, m, hm, rfl⟩
          · exact hc
        generalize (if skipped != 0 then { s.context with stats := [] } else s.context) = a at hfresh ⊢
        generalize (if skipped != 0 then { b with stats := [] } else b) = b' at hfresh ⊢
        simp only [blankBefore_eq hfresh]
        obtain ⟨hc', ht'⟩ := openAfter_alike g source (a.blankBefore c.number 0) [] [] c
          (s := { s with context := a }) (t := { s with context := b' }) ⟨hfresh, rfl⟩
        generalize openAfter g source { s with context := b' } _ [] [] c = t' at hc' ht' ⊢
        rw [ht']
        simp only
        split
        · exact ⟨hc', rfl⟩
        · exact ih ⟨hc', rfl⟩
    · cases s.cursor.peek? with
      | none => exact finish_alike g source hs
      | some line =>
        have h := readLine_alike g source hs
        obtain ⟨hc', ht'⟩ := h
        simp only
        generalize readLine g source { s with context := b } = t' at hc' ht' ⊢
        rw [ht']
        exact ih ⟨hc', rfl⟩

end BlockState

lemma readBlocks_alike (g : Grammar) {m n : MarkdownAttributes} (hm : m.spread = true)
    (hn : n.spread = true) (source : Bytes) :
    (readBlocks g m source).1 = (readBlocks g n source).1 ∧
      (readBlocks g m source).2.Alike (readBlocks g n source).2 := by
  have h : BlockState.Alike { context := { names := m }, cursor := .ofSource source }
      { context := { names := n }, cursor := .ofSource source } := ⟨⟨hm, n, hn, rfl⟩, rfl⟩
  obtain ⟨hc, ht⟩ := BlockState.readLines_alike g source ((Bytes.lines source).length + 1) h
  exact ⟨(congrArg BlockState.closed ht).symm, hc⟩

/-! ### Where nothing looks behind the source -/

section Overrun

variable {g : Grammar} {source : Bytes}

lemma overrun?_try {r : BlockRule} (hr : ∀ s, r ≠ .shortcode s) (place : Place) (ctx : BlockContext)
    (c : LineCursor) : (Opening.try_ source place ctx c r).1.overrun? = ctx.overrun? := by
  cases r with
  | shortcode s => exact absurd rfl (hr s)
  | list =>
    simp only [Opening.try_]
    repeat' split
    all_goals rfl
  | listItem =>
    simp only [Opening.try_]
    split <;> rfl
  | _ => rfl

lemma overrun?_firstOf {rs : List BlockRule} (hrs : ∀ s, .shortcode s ∉ rs) (place : Place)
    (ctx : BlockContext) (c : LineCursor) :
    (Opening.firstOf source place c ctx rs).1.overrun? = ctx.overrun? := by
  induction rs generalizing ctx with
  | nil => rfl
  | cons r rs ih =>
    have ht := @overrun?_try source r (fun s hr => hrs s (hr ▸ List.mem_cons_self)) place ctx c
    rw [Opening.firstOf]
    generalize Opening.try_ source place ctx c r = tried at ht
    obtain ⟨ctx', _ | o⟩ := tried
    · exact (ih (fun s hs => hrs s (List.mem_cons_of_mem _ hs)) ctx').trans ht
    · exact ht

variable (hg : ∀ s, .shortcode s ∉ g.block)

include hg

lemma OpeningState.overrun?_run (blank : Bool) (fuel : Nat) (s : OpeningState) :
    (s.run g source blank fuel).context.overrun? = s.context.overrun? := by
  have hrules : ∀ {s : OpeningState} {line : Bytes} {ctx : BlockContext} {o : Option Opened},
      Opening.firstOf source s.place s.cursor s.context (s.rules g line) = (ctx, o) →
        ctx.overrun? = s.context.overrun? := by
    intro s line ctx o hf
    rw [← overrun?_firstOf (fun k hk => hg k (mem_block_of_mem_rules hk)) s.place s.context s.cursor, hf]
  have hsettled : ∀ {ctx ctx' : BlockContext} {p : Frame} {r : Option (List Span) × List Node},
      settleParagraph g source ctx (trimLines source p.lines) p.blankBefore = (ctx', r) →
        ctx'.overrun? = ctx.overrun? := by
    intro ctx ctx' p r hp
    rw [← (settleParagraph_nameFree g source (trimLines source p.lines) p.blankBefore).overrun? ctx]
    simp only [hp]
  refine run_induction (P := fun t => t.context.overrun? = s.context.overrun?) ?_ rfl fuel
  rintro t r (_ | ⟨_, hf⟩ | ⟨_, hf⟩ | ⟨_, hf, _, _, hp⟩ | ⟨_, hf, _, _, hp⟩) h
  · exact h
  · exact (hrules hf).trans h
  · exact (hrules hf).trans h
  · exact (hsettled hp).trans ((hrules hf).trans h)
  · exact (hsettled hp).trans ((hrules hf).trans h)

namespace BlockState

lemma overrun?_openAfter (s : BlockState) (blank : Bool) (kept left : List Frame) (c : LineCursor) :
    (openAfter g source s blank kept left c).context.overrun? = s.context.overrun? := by
  have ho : (openBlocks g source blank s.context c (Holder.ofFrames kept left)
      (if left.isEmpty then kept.getLast? else left.getLast?) (left.length == 1)).context.overrun? =
      s.context.overrun? := OpeningState.overrun?_run hg blank _ _
  revert ho
  simp only [openAfter]
  generalize openBlocks g source blank s.context c _ _ _ = o
  intro ho
  have hclosed := (closeFrames_nameFree g source left).overrun? o.context
  split
  · exact ho
  · cases o.settled with
    | some nodes =>
      simp only [attach]
      cases kept.getLast? <;> exact ho
    | none =>
      simp only [attach]
      cases kept.getLast? <;> exact hclosed.trans ho

lemma overrun?_readLine (s : BlockState) :
    (s.readLine g source).context.overrun? = s.context.overrun? := by
  have hmatched := (matchFrames_nameFree source ((s.frames.getLast?.map (·.block.isParagraph)).getD false)
    s.cursor.number s.cursor 0 [] s.frames).overrun? s.context
  revert hmatched
  simp only [readLine]
  rcases matchFrames source _ _ s.context s.cursor 0 [] s.frames with ⟨ctx, x⟩
  intro hmatched
  cases x with
  | ended | taken => exact hmatched
  | inside | upTo => exact (overrun?_openAfter hg _ _ _ _ _).trans hmatched

lemma overrun?_step (s : BlockState) : (s.step g source).2.context.overrun? = s.context.overrun? := by
  rw [step]
  split
  · rcases skipBlankLines (s.cursor.later.length + 1) s.cursor 0 with ⟨c, skipped⟩
    simp only
    split
    · rfl
    · have hfresh : (if skipped != 0 then { s.context with stats := [] } else s.context).overrun? =
          s.context.overrun? := by split <;> rfl
      generalize (if skipped != 0 then { s.context with stats := [] } else s.context) = ctx at hfresh ⊢
      have hopened := (@overrun?_openAfter g source hg { s with context := ctx }
        (ctx.blankBefore c.number 0) [] [] c).trans hfresh
      split <;> exact hopened
  · split
    · exact (closeFrames_nameFree g source s.frames).overrun? s.context
    · exact overrun?_readLine hg s

lemma overrun?_readLines (fuel : Nat) (s : BlockState) :
    (s.readLines g source fuel).context.overrun? = s.context.overrun? := by
  induction fuel generalizing s with
  | zero => exact (closeFrames_nameFree g source s.frames).overrun? s.context
  | succ fuel ih =>
    rw [readLines_succ]
    split
    · exact (ih _).trans (overrun?_step hg s)
    · exact overrun?_step hg s

end BlockState

lemma overrun?_readBlocks (names : MarkdownAttributes) : (readBlocks g names source).2.overrun? = none :=
  BlockState.overrun?_readLines hg _ _

end Overrun

namespace Pipeline

variable {p : Pipeline} {names : MarkdownAttributes} {source : Bytes}

lemma format_eq (hp : ∀ s, .shortcode s ∉ p.grammar.block) (names : MarkdownAttributes) (source : Bytes) :
    p.format names source =
      ((Writer.write p.style p.visitors source (p.parse names source).1).mapError .visitor,
        (p.parse names source).2) := by
  have hread : (readDocument p.grammar names source).overrun? = none := overrun?_readBlocks hp names
  simp only [format, hread]
  rfl

lemma write_of_format {out : Bytes} (h : (p.format names source).1 = .ok out) :
    Writer.write p.style p.visitors source (p.parse names source).1 = .ok out := by
  rw [format] at h
  simp only at h
  split at h
  · cases h
  · exact eq_ok_of_mapError h

end Pipeline

end MarkdownTidy
