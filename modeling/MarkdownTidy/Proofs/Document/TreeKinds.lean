import MarkdownTidy.Proofs.Document.BlockShortcode
import MarkdownTidy.Proofs.Document.InlineKinds
import MarkdownTidy.Proofs.Document.TopLevel

/-! The nodes of a document. Blocks are opened, closed and put into each other line by line, text is read
into them and footnotes are moved; nothing comes into the tree on the way but what reading may make. -/

namespace MarkdownTidy

variable {g : Grammar} {src : Bytes}

def OpenBlock.Read (src : Bytes) : OpenBlock → Prop
  | .list _ start => start < 10 ^ 9
  | .heading level => 1 ≤ level ∧ level ≤ 6
  | .fencedCode info .. => ∀ s ∈ info, Bytes.newline ∉ s.value src
  | _ => True

structure Frame.Read (g : Grammar) (src : Bytes) (f : Frame) : Prop where
  block : f.block.Read src
  children : ∀ n ∈ f.children, n.Read g src

def BlockContext.Read (g : Grammar) (src : Bytes) (ctx : BlockContext) : Prop := ∀ n ∈ ctx.footnotes, n.Read g src

lemma BlockContext.Read.of_footnotes {ctx ctx' : BlockContext} (h : ctx.Read g src) (he : ctx'.footnotes = ctx.footnotes) :
    ctx'.Read g src := by
  rwa [BlockContext.Read, he]

lemma Frame.Read.addLine {f : Frame} (h : f.Read g src) (s : Span) : (f.addLine s).Read g src := ⟨h.block, h.children⟩

lemma Frame.Read.addChildren {f : Frame} (h : f.Read g src) {nodes : List Node} (hn : ∀ n ∈ nodes, n.Read g src) :
    (f.addChildren nodes).Read g src := by
  refine ⟨h.block, fun n hm => ?_⟩
  rcases List.mem_append.mp hm with hm | hm
  · exact h.children n hm
  · exact hn n hm

/-! ### Closing -/

section Closing

variable {source : Bytes} {ctx : BlockContext} {f : Frame}

lemma Table.read_cellsFrom (alignments : List Alignment) (header : Bool) (fuel : Nat) (previous : Option UInt8)
    (start : Nat) (row : Bytes) : ∀ n ∈ (cellsFrom source alignments header fuel previous start row).1, n.Read g src := by
  induction fuel generalizing alignments previous start row with
  | zero => simp [cellsFrom]
  | succ fuel ih =>
    cases row with
    | nil => simp [cellsFrom]
    | cons b row =>
      rw [cellsFrom.eq_def]
      dsimp only
      split
      · simp
      · exact List.forall_mem_cons.mpr ⟨.mk trivial (by simp), ih _ _ _ _⟩

lemma Table.read_row (alignments : List Alignment) (header : Bool) (line : Span) :
    ∀ n ∈ (row source alignments header line).1, n.Read g src := by
  rw [row]
  dsimp only
  intro n hn
  rcases List.mem_append.mp hn with hn | hn
  · exact read_cellsFrom _ _ _ _ _ _ n hn
  · rw [List.eq_of_mem_replicate hn]
    exact .of_leaf trivial

lemma Table.read_search {seen spans : List Span} {above : Span} {found : Found}
    (h : search? source seen above spans = some found) : found.table.Read g src := by
  induction spans generalizing seen above with
  | nil => cases h
  | cons s spans ih =>
    simp only [search?] at h
    split at h
    · exact ih h
    · split at h
      · cases h
      · cases h
        refine .mk trivial (List.forall_mem_cons.mpr ⟨.mk trivial (read_row _ _ _), fun n hn => ?_⟩)
        obtain ⟨r, hr, rfl⟩ := List.mem_map.mp hn
        obtain ⟨line, -, rfl⟩ := List.mem_map.mp hr
        exact .mk trivial (read_row _ _ _)

lemma Table.read_find {spans : List Span} {found : Found} (h : find? source spans = some found) : found.table.Read g src := by
  cases spans with
  | nil => cases h
  | cons s spans => exact read_search h

lemma settleParagraph_read (g' : Grammar) (lines : List Span) (blank : Bool) :
    (settleParagraph g' source ctx lines blank).1.footnotes = ctx.footnotes ∧
      ∀ n ∈ (settleParagraph g' source ctx lines blank).2.2, n.Read g src := by
  simp only [settleParagraph]
  split
  · exact ⟨rfl, List.forall_mem_singleton.mpr (.mk trivial (by simp))⟩
  · split
    · exact ⟨rfl, by simp⟩
    · rename_i found hf
      split at hf
      · exact ⟨rfl, by simpa using Table.read_find hf⟩
      · cases hf

lemma tightenItem_read {n : Node} (h : n.Read g src) : (tightenItem n).Read g src := by
  refine .mk h.own (List.forall_mem_map.mpr fun m hm => ?_)
  have hread := h.inner m hm
  split
  · exact .mk trivial hread.inner
  · exact hread

lemma closeFrame_read (hc : ctx.Read g src) (hf : f.Read g src) (g' : Grammar) :
    (closeFrame g' source ctx f).1.Read g src ∧ ∀ n ∈ (closeFrame g' source ctx f).2, n.Read g src := by
  have hnode : ∀ {k : Kind}, k.Read g src →
      ∀ n ∈ [Node.mk { kind := k, lines := f.lines, blankBefore := f.blankBefore } f.children], n.Read g src := by
    intro k hk
    simpa using Node.Read.mk hk hf.children
  have hblock := hf.block
  rw [closeFrame]
  cases hb : f.block <;> rw [hb] at hblock
  case paragraph =>
    obtain ⟨hnotes, hafter⟩ := @settleParagraph_read g src source ctx g' f.lines f.blankBefore
    simp only
    split
    · exact ⟨hc.of_footnotes hnotes, hafter⟩
    · exact ⟨hc.of_footnotes hnotes, List.forall_mem_cons.mpr ⟨.mk trivial (by simp), hafter⟩⟩
  case heading level =>
    simp only [headingAttributes]
    split <;> exact ⟨hc, List.forall_mem_singleton.mpr (.mk hblock (by simp))⟩
  case codeBlock => exact ⟨hc, List.forall_mem_singleton.mpr (.mk trivial (by simp))⟩
  case list marker start =>
    simp only
    split
    · refine ⟨hc, ?_⟩
      exact List.forall_mem_singleton.mpr (.mk hblock (List.forall_mem_map.mpr fun n hn => tightenItem_read (hf.children n hn)))
    · exact ⟨hc, hnode hblock⟩
  case fencedCode info mark indent length => exact ⟨hc, hnode hblock⟩
  case footnote label =>
    refine ⟨fun n hn => ?_, ?_⟩
    · rcases List.mem_append.mp hn with hn | hn
      · exact hc n hn
      · exact @hnode (.footnote label 0) trivial n hn
    · simp only
      split
      · exact List.forall_mem_singleton.mpr (.of_leaf trivial)
      · simp
  case frontMatter problem? =>
    simp only
    split
    · exact ⟨hc, by simp⟩
    · exact ⟨hc, hnode trivial⟩
  all_goals exact ⟨hc, hnode trivial⟩

lemma closeFrames_read (hc : ctx.Read g src) {frames : List Frame} (hf : ∀ f ∈ frames, f.Read g src) (g' : Grammar) :
    (closeFrames g' source ctx frames).1.Read g src ∧ ∀ n ∈ (closeFrames g' source ctx frames).2, n.Read g src := by
  induction frames with
  | nil => exact ⟨hc, by simp [closeFrames]⟩
  | cons f frames ih =>
    rw [List.forall_mem_cons] at hf
    obtain ⟨hctx, hnodes⟩ := ih hf.2
    exact closeFrame_read hctx (hf.1.addChildren hnodes) g'

end Closing

/-! ### Going on with open blocks -/

section Matching

variable {source : Bytes} {ctx : BlockContext} {c : LineCursor} {f : Frame}

lemma Verdict.Of.read {v : Verdict} (hv : v.Of c f) (hf : f.Read g src) : v.frame.Read g src := by
  cases hv with
  | close | closeBehind | keep => exact hf
  | closeHtml => exact ⟨trivial, hf.children⟩
  | addLine _ s => exact hf.addLine s

lemma matchFrames_read (last : Bool) (number : Nat) (ctx : BlockContext) (c : LineCursor) (depth : Nat)
    {kept frames : List Frame} (hk : ∀ f ∈ kept, f.Read g src) (hf : ∀ f ∈ frames, f.Read g src) :
    (matchFrames source last number ctx c depth kept frames).1.footnotes = ctx.footnotes ∧
      ∀ fs ∈ (matchFrames source last number ctx c depth kept frames).2.frames?, ∀ f ∈ fs, f.Read g src := by
  induction frames generalizing ctx c depth kept with
  | nil => exact ⟨rfl, by rintro _ ⟨⟩; exact hk⟩
  | cons f inner ih =>
    have hall : ∀ f' : Frame, f'.Read g src → ∀ fs ∈ some (kept ++ f' :: inner), ∀ f ∈ fs, f.Read g src := by
      rintro f' hf' _ ⟨⟩
      rw [List.forall_mem_cons] at hf
      exact fun x hx => (List.mem_append.mp hx).elim (hk x) (List.forall_mem_cons.mpr ⟨hf', hf.2⟩ x)
    rw [matchFrames]
    cases c.peek? with
    | none => exact ⟨rfl, by rintro _ ⟨⟩⟩
    | some line =>
      rw [List.forall_mem_cons] at hf
      simp only
      split
      · exact ⟨rfl, hall f hf.1⟩
      · have hread := (@Continuing.of_block source c f last
          { ctx with stats := ⟨number, depth, Bytes.isBlank line⟩ :: ctx.stats } inner).read hf.1
        have hnotes := @Continuing.footnotes_block source c f last
          { ctx with stats := ⟨number, depth, Bytes.isBlank line⟩ :: ctx.stats } inner
        generalize Continuing.block source last _ f inner c = verdict at hread hnotes
        obtain ⟨ctx', ⟨f', c'⟩ | ⟨f', c', container⟩⟩ := verdict
        · exact ⟨hnotes, hall f' hread⟩
        · have hkept : ∀ x ∈ kept ++ [f'], x.Read g src := by
            simpa [or_imp, forall_and] using ⟨hk, hread⟩
          simp only
          split
          · exact ⟨hnotes, by rintro _ ⟨⟩; exact hkept⟩
          · obtain ⟨hn, hfs⟩ := ih ctx' c' (depth + 1) hkept hf.2
            exact ⟨hn.trans hnotes, hfs⟩

end Matching

/-! ### Opening blocks -/

lemma toNat_lt (ds : Bytes) (hd : ∀ b ∈ ds, Bytes.isDigit b = true) : Bytes.toNat ds < 10 ^ ds.length := by
  have hfold : ∀ (ds : Bytes) (n : Nat), (∀ b ∈ ds, Bytes.isDigit b = true) →
      ds.foldl (fun n c => n * 10 + (c.toNat - 48)) n < (n + 1) * 10 ^ ds.length := by
    intro ds
    induction ds with
    | nil => simp
    | cons b ds ih =>
      intro n hd
      rw [List.forall_mem_cons] at hd
      have hb : b.toNat - 48 < 10 := by
        have hdigit := hd.1
        simp only [Bytes.isDigit, Bool.and_eq_true, decide_eq_true_eq, UInt8.le_iff_toNat_le] at hdigit
        have h57 : (57 : UInt8).toNat = 57 := rfl
        omega
      calc (b :: ds).foldl (fun n c => n * 10 + (c.toNat - 48)) n
          < (n * 10 + (b.toNat - 48) + 1) * 10 ^ ds.length := ih _ hd.2
        _ ≤ ((n + 1) * 10) * 10 ^ ds.length := Nat.mul_le_mul_right _ (by omega)
        _ = (n + 1) * 10 ^ (b :: ds).length := by rw [List.length_cons, Nat.pow_succ, Nat.mul_assoc, Nat.mul_comm 10]
  simpa [Bytes.toNat] using hfold ds 0 hd

lemma ListMarker.number_lt {line : Bytes} {m : ListMarker} (h : read? line = some m) : m.number < 10 ^ 9 := by
  have hfinish : ∀ {ordered : Bool} {indent width number : Nat} {mark : UInt8} {rest : Bytes},
      finish ordered indent width number mark rest = some m → m.number = number := by
    intro ordered indent width number mark rest hf
    rw [finish.eq_def] at hf
    simp only at hf
    repeat' split at hf
    all_goals first | cases hf; rfl | cases hf
  simp only [read?] at h
  split at h
  · cases h
  · split at h
    · cases h
    · rename_i b rest _
      split at h
      · rw [hfinish h]
        decide
      · split at h
        · cases h
        · rename_i hlen
          split at h
          · split at h
            · rw [hfinish h]
              refine (toNat_lt _ fun b hb => List.mem_takeWhile_imp hb).trans_le (Nat.pow_le_pow_right (by decide) ?_)
              simp only [Bool.or_eq_true, decide_eq_true_eq, not_or] at hlen
              omega
            · cases h
          · cases h

namespace Opening

variable {source : Bytes} {place : Place} {ctx ctx' : BlockContext} {c : LineCursor}

lemma getLast?_drop_rest {n : Nat} (hn : n < c.rest.length) :
    (c.rest.drop n).getLast? = c.line.text.getLast? := by
  have hne : c.rest ≠ [] := List.ne_nil_of_length_pos (by omega)
  have hrest := LineCursor.rest_eq hne
  have hleft : c.line.text.drop c.taken ≠ [] := by
    intro hnil
    rw [LineCursor.rest, LineCursor.peek?, hnil] at hne
    exact hne rfl
  rw [List.getLast?_drop, if_neg (by omega), hrest, List.getLast?_append_of_ne_nil _ hleft, List.getLast?_drop, if_neg]
  intro hle
  exact hleft (List.drop_eq_nil_of_le hle)

lemma newline_notMem_info (h : c.On source) {o : Opened} (ho : fencedCode c = some o) : o.block.Read source := by
  simp only [fencedCode] at ho
  split at ho
  · cases ho
  · rename_i pos hpos
    have hpadding := padding_le_of_blockOffset? hpos
    split at ho
    · cases ho
    · rename_i mark marks hmarks
      generalize ((c.rest.drop pos).takeWhile (· == mark)).length = length at ho
      generalize htail : c.rest.drop (pos + length) = tail at ho
      split at ho
      · cases ho
      · split at ho
        · cases ho
        · cases ho
          intro s hs
          split at hs
          · rename_i hinfo
            simp only [Bool.and_eq_true, decide_eq_true_eq] at hinfo
            cases hs
            refine h.line.newline_notMem_slice ?_ ?_ fun hlast => ?_
            · simp only [LineCursor.span]
              omega
            · simp only [LineCursor.span]
              omega
            · have hrest : (pos + length) < c.rest.length := by
                have hlen := congrArg List.length htail
                rw [List.length_drop] at hlen
                omega
              have hend := getLast?_drop_rest hrest
              rw [hlast, htail, List.getLast?_eq_some_iff] at hend
              obtain ⟨init, rfl⟩ := hend
              have hle := @Bytes.length_trimRight_concat_le Bytes.isSpace init Bytes.newline (by decide)
              rw [LineCursor.span, List.length_append, List.length_singleton]
              have hpos : 0 < c.line.text.length := List.length_pos_of_mem (List.mem_of_getLast? hlast)
              simp only
              omega
          · cases hs

lemma underlineLevel?_bounds {line : Bytes} {level : Nat} (h : underlineLevel? line = some level) :
    1 ≤ level ∧ level ≤ 2 := by
  simp only [underlineLevel?] at h
  repeat' split at h
  all_goals first | cases h; decide | cases h

lemma Opens.read (hc : c.On source) {r : BlockRule} {o : Opened} (h : Opens source place c r o) :
    o.block.Read source := by
  cases h with
  | setextHeading hlevel => exact (underlineLevel?_bounds hlevel).imp_right fun h => h.trans (by decide)
  | list hm => exact ListMarker.number_lt hm
  | atxHeading hlevel => exact hlevel
  | fencedCode ho => exact newline_notMem_info hc ho
  | _ => exact trivial

end Opening

namespace OpeningState

structure Read (g : Grammar) (src : Bytes) (s : OpeningState) : Prop where
  context : s.context.Read g src
  opened : ∀ f ∈ s.opened, f.Read g src
  settled : ∀ ns ∈ s.settled, ∀ n ∈ ns, n.Read g src

variable {g' : Grammar} {source : Bytes} {blank : Bool} {s : OpeningState}

lemma Read.push (h : s.Read g source) {o : Opened} (ho : o.block.Read source) (blank : Bool) (lines : List Span) :
    (s.push o { block := o.block, blankBefore := blank, lines := lines }).Read g source := by
  refine ⟨h.context, fun f hf => ?_, h.settled⟩
  rcases List.mem_append.mp hf with hf | hf
  · exact h.opened f hf
  · rw [List.mem_singleton.mp hf]
    exact ⟨ho, by simp⟩

lemma Read.afterParagraph (h : s.Read g source) {ctx : BlockContext} {nodes : List Node}
    (hctx : ctx.footnotes = s.context.footnotes) (hn : ∀ n ∈ nodes, n.Read g source) :
    (s.afterParagraph ctx nodes).Read g source :=
  ⟨h.context.of_footnotes hctx, h.opened, by rintro _ ⟨⟩; exact hn⟩

lemma Steps.read {r : Bool × OpeningState} (hr : Steps g' source blank s r) (h : s.Read g source) (hs : s.On source) :
    r.2.Read g source := by
  -- Trying rules closes no footnote, and what they open is read from the line.
  have hnotes : ∀ {line ctx o}, Opening.firstOf source s.place s.cursor s.context (s.rules g' line) = (ctx, o) →
      ctx.footnotes = s.context.footnotes := fun {line _ _} hf => by
    have hpasses := BlockContext.Passes.firstOf s.context source s.place s.cursor (s.rules g' line)
    rw [hf] at hpasses
    exact hpasses.footnotes
  have hread : ∀ {line ctx o}, Opening.firstOf source s.place s.cursor s.context (s.rules g' line) = (ctx, some o) →
      o.block.Read source := fun hf => by
    obtain ⟨r, -, hr⟩ := Opening.opens_of_firstOf hf
    exact hr.read hs.cursor
  cases hr with
  | ended => exact h
  | silent _ hf => exact ⟨h.context.of_footnotes (hnotes hf), h.opened, h.settled⟩
  | @opens line ctx o _ hf =>
    have htried : OpeningState.Read g source { s with context := ctx } :=
      ⟨h.context.of_footnotes (hnotes hf), h.opened, h.settled⟩
    exact htried.push (hread hf) _ _
  | @defines line ctx ctx' o p nodes _ hf _ _ hp =>
    obtain ⟨hsame, hnodes⟩ := @settleParagraph_read g source source ctx g' (trimLines source p.lines) p.blankBefore
    rw [hp] at hsame hnodes
    exact h.afterParagraph (hsame.trans (hnotes hf)) hnodes
  | @underlines line ctx ctx' o p lines nodes _ hf _ _ hp =>
    obtain ⟨hsame, hnodes⟩ := @settleParagraph_read g source source ctx g' (trimLines source p.lines) p.blankBefore
    rw [hp] at hsame hnodes
    exact (h.afterParagraph (hsame.trans (hnotes hf)) hnodes).push (hread hf) _ _

lemma Read.run (h : s.Read g source) (hs : s.On source) (fuel : Nat) : (s.run g' source blank fuel).Read g source :=
  (run_induction (P := fun s => s.Read g source ∧ s.On source) (fun hr hs => ⟨hr.read hs.1 hs.2, hr.on hs.2⟩)
    ⟨h, hs⟩ fuel).1

end OpeningState

/-! ### Reading lines -/

namespace BlockState

structure Read (g : Grammar) (src : Bytes) (s : BlockState) : Prop where
  context : s.context.Read g src
  closed : ∀ n ∈ s.closed, n.Read g src
  frames : ∀ f ∈ s.frames, f.Read g src

variable {g' : Grammar} {source : Bytes} {s : BlockState}

lemma Read.attach (h : s.Read g source) {frames : List Frame} (hf : ∀ f ∈ frames, f.Read g source) {nodes : List Node}
    (hn : ∀ n ∈ nodes, n.Read g source) : (s.attach frames nodes).Read g source := by
  rw [BlockState.attach]
  split
  · exact ⟨h.context, fun n hm => (List.mem_append.mp hm).elim (h.closed n) (hn n), by simp⟩
  · rename_i f hlast
    refine ⟨h.context, h.closed, fun x hx => ?_⟩
    rcases List.mem_append.mp hx with hx | hx
    · exact hf x (List.dropLast_subset _ hx)
    · rw [List.mem_singleton.mp hx]
      exact (hf f (List.mem_of_getLast? hlast)).addChildren hn

lemma read_continueParagraph {c : LineCursor} {frames frames' : List Frame} (hf : ∀ f ∈ frames, f.Read g source)
    (h : continueParagraph? c frames = some frames') : ∀ f ∈ frames', f.Read g source := by
  rw [continueParagraph?] at h
  split at h
  · rename_i f hlast
    split at h
    · cases h
      intro x hx
      rcases List.mem_append.mp hx with hx | hx
      · exact hf x (List.dropLast_subset _ hx)
      · rw [List.mem_singleton.mp hx]
        exact (hf f (List.mem_of_getLast? hlast)).addLine _
    · cases h
  · cases h

lemma Read.finish (h : s.Read g source) : (s.finish g' source).Read g source := by
  obtain ⟨hctx, hnodes⟩ := @closeFrames_read g source source _ h.context _ h.frames g'
  exact ⟨hctx, fun n hn => (List.mem_append.mp hn).elim (h.closed n) (hnodes n), by simp [BlockState.finish]⟩

lemma Read.openAfter (h : s.Read g source) {kept left : List Frame} (hk : ∀ f ∈ kept, f.Read g source)
    (hl : ∀ f ∈ left, f.Read g source) (blank : Bool) {c : LineCursor} (hc : c.On source) (hp : kept = [] → c.padding = 0) :
    (s.openAfter g' source blank kept left c).Read g source := by
  have hrun : (OpeningState.run g' source blank (2 * c.rest.length + 2) (.start s.context c kept left)).Read g source :=
    OpeningState.Read.run ⟨h.context, by simp [OpeningState.start], by simp [OpeningState.start]⟩
      (OpeningState.on_start hc hp) _
  rw [BlockState.openAfter, OpeningState.openBlocks_eq_run]
  generalize OpeningState.run g' source blank (2 * c.rest.length + 2) (.start s.context c kept left) = r at hrun
  simp only
  split
  · rename_i left' hlazy
    split at hlazy
    · refine ⟨hrun.context, h.closed, fun f hf => ?_⟩
      exact (List.mem_append.mp hf).elim (hk f) (read_continueParagraph hl hlazy f)
    · cases hlazy
  · have hclose := @closeFrames_read g source source _ hrun.context _ hl g'
    have hattached : ∀ ctx nodes, ctx.Read g source → (∀ n ∈ nodes, n.Read g source) →
        ({ s with context := ctx, cursor := r.cursor }.attach kept nodes).Read g source := fun ctx nodes hctx hnodes =>
      @Read.attach g source { s with context := ctx, cursor := r.cursor } ⟨hctx, h.closed, h.frames⟩ kept hk nodes hnodes
    have hopened : ∀ t : BlockState, t.Read g source → { t with frames := t.frames ++ r.opened }.Read g source := fun t ht =>
      ⟨ht.context, ht.closed, fun f hf => (List.mem_append.mp hf).elim (ht.frames f) (hrun.opened f)⟩
    cases hs : r.settled with
    | none => exact hopened _ (hattached _ _ hclose.1 hclose.2)
    | some nodes => exact hopened _ (hattached _ _ hrun.context (hrun.settled nodes hs))

lemma Read.readLine (h : s.Read g source) (hs : s.On source) : (s.readLine g' source).Read g source := by
  have hm := @matchFrames_read g source source ((s.frames.getLast?.map (·.block.isParagraph)).getD false)
    s.cursor.number s.context s.cursor 0 [] s.frames (by simp) h.frames
  have hon := matchFrames_on ((s.frames.getLast?.map (·.block.isParagraph)).getD false) s.cursor.number s.context 0 s.frames
    hs.cursor (fun _ : ([] : List Frame) = [] => hs.padding)
  rw [BlockState.readLine]
  generalize matchFrames source _ s.cursor.number s.context s.cursor 0 [] s.frames = result at hm hon
  obtain ⟨ctx, _ | frames | ⟨frames, c, depth⟩ | ⟨kept, left, c⟩⟩ := result
  · exact ⟨h.context.of_footnotes hm.1, h.closed, h.frames⟩
  · exact ⟨h.context.of_footnotes hm.1, h.closed, hm.2 _ rfl⟩
  · exact @Read.openAfter g g' source { s with context := ctx } ⟨h.context.of_footnotes hm.1, h.closed, h.frames⟩
      frames [] (hm.2 _ rfl) (by simp) _ c hon.1 fun hk => absurd hk hon.2
  · have hframes := hm.2 _ rfl
    exact @Read.openAfter g g' source { s with context := ctx } ⟨h.context.of_footnotes hm.1, h.closed, h.frames⟩
      kept left (fun f hf => hframes f (List.mem_append_left _ hf)) (fun f hf => hframes f (List.mem_append_right _ hf)) _ c
      hon.1 hon.2

lemma Read.step (h : s.Read g source) (hs : s.On source) : (s.step g' source).2.Read g source := by
  simp only [BlockState.step]
  cases hf : s.frames.isEmpty with
  | true =>
    simp only [if_true]
    have hskip := skipBlankLines_on hs.cursor hs.padding (s.cursor.later.length + 1) 0
    generalize skipBlankLines (s.cursor.later.length + 1) s.cursor 0 = r at hskip
    obtain ⟨c, skipped⟩ := r
    simp only
    cases c.peek? with
    | none => exact h
    | some line =>
      have hctx : (if skipped != 0 then { s.context with stats := [] } else s.context).Read g source := by
        split <;> exact h.context
      generalize (if skipped != 0 then { s.context with stats := [] } else s.context) = ctx at hctx
      have ho : ∀ blank, (BlockState.openAfter g' source { s with context := ctx } blank [] [] c).Read g source :=
        fun blank => @Read.openAfter g g' source { s with context := ctx } ⟨hctx, h.closed, h.frames⟩ [] [] (by simp)
          (by simp) blank c hskip.1 fun _ => hskip.2
      simp only
      split
      · exact ho _
      · exact ⟨(ho _).context, (ho _).closed, (ho _).frames⟩
  | false =>
    simp only [Bool.false_eq_true, if_false]
    cases s.cursor.peek? with
    | none => exact h.finish
    | some line => exact ⟨(h.readLine hs).context, (h.readLine hs).closed, (h.readLine hs).frames⟩

lemma Read.readLines (h : s.Read g source) (hs : s.On source) (fuel : Nat) :
    (s.readLines g' source fuel).Read g source := by
  induction fuel generalizing s with
  | zero => exact h.finish
  | succ fuel ih =>
    rw [readLines_succ]
    split
    · rename_i hmore
      exact ih (h.step hs) (hs.step hmore)
    · exact h.step hs

end BlockState

lemma readBlocks_read (g' : Grammar) (names : MarkdownAttributes) (source : Bytes) :
    (∀ n ∈ (readBlocks g' names source).1, n.Read g source) ∧ (readBlocks g' names source).2.Read g source := by
  have h : BlockState.Read g source ⟨{ names := names }, .ofSource source, [], []⟩ :=
    ⟨by simp [BlockContext.Read], by simp, by simp⟩
  have hs : BlockState.On source ⟨{ names := names }, .ofSource source, [], []⟩ := (BlockState.Reached.start (g := g')).on
  exact ⟨(h.readLines hs _).closed, (h.readLines hs _).context⟩

/-! ### From the blocks to the tree -/

mutual

lemma readText_read (t : TextScope) (holder : Kind) (first : Bool) (m : InlineMemory) :
    (n : Node) → n.Read t.grammar src → (readText t holder first m n).1.Read t.grammar src
  | .mk info children, h => by
    have hchildren := readTexts_read t info.kind true m children h.inner
    rw [readText]
    simp only
    split
    · exact .mk h.own hchildren
    · refine .mk h.own fun n hn => ?_
      rcases List.mem_append.mp hn with hn | hn
      · exact hchildren n hn
      · exact Inline.read_nodes _ _ n hn

lemma readTexts_read (t : TextScope) (holder : Kind) (first : Bool) (m : InlineMemory) :
    (ns : List Node) → (∀ n ∈ ns, n.Read t.grammar src) → ∀ n ∈ (readTexts t holder first m ns).1, n.Read t.grammar src
  | [], _ => by simp [readTexts]
  | n :: ns, h => by
    rw [List.forall_mem_cons] at h
    rw [readTexts]
    exact List.forall_mem_cons.mpr ⟨readText_read t holder first m n h.1, readTexts_read t holder false _ ns h.2⟩

end

lemma splitAtPipes_read {n : Node} (h : n.Read g src) (pipes : List Nat) : ∀ m ∈ splitAtPipes n pipes, m.Read g src := by
  induction pipes generalizing n with
  | nil => simpa [splitAtPipes] using h
  | cons p pipes ih =>
    rw [splitAtPipes]
    split
    · split
      · exact List.forall_mem_cons.mpr ⟨.of_leaf trivial, ih (.of_leaf trivial)⟩
      · exact ih (.mk trivial h.inner)
    · simpa using h

mutual

lemma unhidePipes_read (pipes : List Nat) (inCell : Bool) : (n : Node) → n.Read g src → (unhidePipes pipes inCell n).Read g src
  | .mk info children, h => by
    unfold unhidePipes
    split
    · refine .mk h.own fun m hm => ?_
      obtain ⟨n, hn, hm⟩ := List.mem_flatMap.mp hm
      exact splitAtPipes_read (h.inner n hn) pipes m hm
    · exact .mk h.own (unhidePipesIn_read pipes true children h.inner)
    · exact .mk h.own (unhidePipesIn_read pipes _ children h.inner)

lemma unhidePipesIn_read (pipes : List Nat) (inCell : Bool) :
    (ns : List Node) → (∀ n ∈ ns, n.Read g src) → ∀ n ∈ unhidePipesIn pipes inCell ns, n.Read g src
  | [], _ => by simp [unhidePipesIn]
  | n :: ns, h => by
    rw [List.forall_mem_cons] at h
    rw [unhidePipesIn]
    exact List.forall_mem_cons.mpr ⟨unhidePipes_read pipes inCell n h.1, unhidePipesIn_read pipes inCell ns h.2⟩

end

namespace Footnotes

variable {notes : List Node}

mutual

lemma fillNode_read (hn : ∀ n ∈ notes, n.Read g src) : (n : Node) → n.Read g src → (fillNode notes n).Read g src
  | .mk info children, h => by
    rw [fillNode]
    split
    · exact .mk h.own hn
    · exact .mk h.own (fillNodes_read hn children h.inner)

lemma fillNodes_read (hn : ∀ n ∈ notes, n.Read g src) :
    (ns : List Node) → (∀ n ∈ ns, n.Read g src) → ∀ n ∈ fillNodes notes ns, n.Read g src
  | [], _ => by simp [fillNodes]
  | n :: ns, h => by
    rw [List.forall_mem_cons] at h
    rw [fillNodes]
    exact List.forall_mem_cons.mpr ⟨fillNode_read hn n h.1, fillNodes_read hn ns h.2⟩

end

mutual

lemma withoutLists_read : (n : Node) → n.Read g src → (withoutLists n).Read g src
  | .mk info children, h => by
    rw [withoutLists]
    exact .mk h.own (listsRemoved_read children h.inner)

lemma listsRemoved_read : (ns : List Node) → (∀ n ∈ ns, n.Read g src) → ∀ n ∈ listsRemoved ns, n.Read g src
  | [], _ => by simp [listsRemoved]
  | n :: ns, h => by
    rw [List.forall_mem_cons] at h
    rw [listsRemoved]
    split
    · exact listsRemoved_read ns h.2
    · exact List.forall_mem_cons.mpr ⟨withoutLists_read n h.1, listsRemoved_read ns h.2⟩

end

mutual

lemma listIn_read {l : List Node} : (n : Node) → n.Read g src → listIn? n = some l → ∀ m ∈ l, m.Read g src
  | .mk info children, h, hl => by
    rw [listIn?] at hl
    split at hl
    · cases hl
      exact h.inner
    · exact listAmong_read children h.inner hl

lemma listAmong_read {l : List Node} :
    (ns : List Node) → (∀ n ∈ ns, n.Read g src) → listAmong? ns = some l → ∀ m ∈ l, m.Read g src
  | [], _, hl => by cases hl
  | n :: ns, h, hl => by
    rw [List.forall_mem_cons] at h
    rw [listAmong?] at hl
    split at hl
    · cases hl
      exact listIn_read n h.1 ‹_›
    · exact listAmong_read ns h.2 hl

end

mutual

lemma countNode_read (links : List Nat) : (n : Node) → n.Read g src → (countNode links n).Read g src
  | .mk info children, h => by
    rw [countNode]
    refine .mk ?_ (countNodes_read links children h.inner)
    simp only
    split
    · exact trivial
    · exact h.own

lemma countNodes_read (links : List Nat) :
    (ns : List Node) → (∀ n ∈ ns, n.Read g src) → ∀ n ∈ countNodes links ns, n.Read g src
  | [], _ => by simp [countNodes]
  | n :: ns, h => by
    rw [List.forall_mem_cons] at h
    rw [countNodes]
    exact List.forall_mem_cons.mpr ⟨countNode_read links n h.1, countNodes_read links ns h.2⟩

end

lemma finish_read (links : List Nat) (index : Nat) {n : Node} (h : n.Read g src) : (finish links index n).Read g src := by
  have hback : ∀ count, ∀ m ∈ backlinks index count, m.Read g src := fun count =>
    List.forall_mem_map.mpr fun _ _ => .of_leaf trivial
  refine .mk trivial fun m hm => ?_
  split at hm
  · rename_i last hlast
    have hread := h.inner last (List.mem_of_getLast? hlast)
    split at hm
    · rcases List.mem_append.mp hm with hm | hm
      · exact h.inner m (List.dropLast_subset _ hm)
      · rw [List.mem_singleton.mp hm]
        refine .mk hread.own fun x hx => ?_
        exact (List.mem_append.mp hx).elim (hread.inner x) (hback _ x)
    · exact (List.mem_append.mp hm).elim (h.inner m) (hback _ m)
  · exact hback _ m hm

lemma mem_insert {p q : Nat × Node} {qs : List (Nat × Node)} (h : p ∈ insert q qs) : p = q ∨ p ∈ qs := by
  induction qs with
  | nil => simpa [insert] using h
  | cons r qs ih =>
    rw [insert] at h
    split at h
    · simpa using h
    · rcases List.mem_cons.mp h with rfl | h
      · exact .inr List.mem_cons_self
      · exact (ih h).imp_right (List.mem_cons_of_mem _)

lemma place_read (hn : ∀ n ∈ notes, n.Read g src) (indices links : List Nat) {doc : Node} (h : doc.Read g src) :
    (place notes indices links doc).Read g src := by
  have hbody := countNode_read links _ (withoutLists_read doc h)
  have hfound : ∀ n ∈ (listIn? doc).getD notes, n.Read g src := by
    cases hl : listIn? doc with
    | none => exact hn
    | some l => exact listIn_read doc h hl
  have hfold : ∀ ps acc : List (Nat × Node), (∀ p ∈ ps, p.2.Read g src) → (∀ p ∈ acc, p.2.Read g src) →
      ∀ p ∈ ps.foldl (fun acc p => insert p acc) acc, p.2.Read g src := by
    intro ps
    induction ps with
    | nil => exact fun acc _ hacc => hacc
    | cons p ps ih =>
      intro acc hps hacc
      rw [List.forall_mem_cons] at hps
      exact ih _ hps.2 fun q hq => (mem_insert hq).elim (fun he => he ▸ hps.1) (hacc q)
  rw [place]
  split
  · exact h
  · simp only
    split
    · exact hbody
    · refine .mk hbody.own fun m hm => ?_
      rcases List.mem_append.mp hm with hm | hm
      · exact hbody.inner m hm
      · rw [List.mem_singleton.mp hm]
        refine .mk trivial (List.forall_mem_map.mpr fun p hp => ?_)
        refine finish_read links p.1 (countNode_read links _ (withoutLists_read _ ?_))
        refine hfold _ [] (fun q hq => ?_) (by simp) p hp
        exact hfound q.2 (List.of_mem_zip (List.mem_filter.mp hq).1).2

end Footnotes

/-- A node and the nodes inside it. -/
inductive Node.Within (n : Node) : Node → Prop
  | refl : Within n n
  | inside {m : Node} {info : Info} {children : List Node} (hm : m ∈ children) (h : Within n m) : Within n (.mk info children)

lemma Node.within_of_mem_children {n m : Node} (h : n ∈ m.children) : n.Within m := by
  obtain ⟨info, children⟩ := m
  exact .inside h .refl

lemma Node.Read.within {n m : Node} (h : m.Read g src) (hn : n.Within m) : n.Read g src := by
  induction hn with
  | refl => exact h
  | inside hm _ ih => exact ih (h.inner _ hm)

theorem parseDocument_read (g : Grammar) (names : MarkdownAttributes) (source : Bytes) :
    (parseDocument g names source).1.Read g source := by
  obtain ⟨hblocks, hnotes⟩ := readBlocks_read (g := g) g names source
  have hdoc : (readDocument g names source).document.Read g source :=
    .mk trivial (readTexts_read _ _ _ _ _ (Footnotes.fillNodes_read hnotes _ hblocks))
  have hpipes : (readDocument g names source).resolvePipes.document.Read g source := by
    rw [RawDocument.resolvePipes]
    split
    · exact hdoc
    · exact unhidePipes_read _ _ _ hdoc
  refine Footnotes.place_read ?_ _ _ hpipes
  rw [RawDocument.resolvePipes]
  split <;> exact hnotes

end MarkdownTidy
