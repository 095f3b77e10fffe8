import MarkdownTidy.Proofs.Document.NestedOpening

/-! Lines read while blocks are open inside of each other: which of the blocks go on with a line, what a line opens in
them, and what is left behind of those that end. -/

namespace MarkdownTidy

/-! ### Going on with one block -/

lemma Bytes.isBlank_drop_trimRight (s : Bytes) : isBlank (s.drop (trimRight isSpace s).length) = true := by
  have hdrop : s.drop (s.rdropWhile isSpace).length = s.rtakeWhile isSpace := by
    nth_rewrite 2 [← List.rdropWhile_append_rtakeWhile (p := isSpace) (l := s)]
    exact List.drop_left
  rw [trimRight_eq_rdropWhile, hdrop]
  exact List.all_eq_true.mpr fun b hb => List.mem_rtakeWhile_imp hb

/-- What a line means for an open block: a container goes on with what is left of the line behind its indentation and
marker, or ends, a list and an item only with a line that is not blank; text goes on or ends on its line. -/
inductive Verdict.Fits (source : Bytes) (c c₀ : LineCursor) (z : Bytes) (f : Frame) : Verdict → Prop
  | stop (hf : f.block.isContainer = true) (hz : f.block = .blockquote ∨ Bytes.isBlank z = false) : Fits source c c₀ z f (.close f c)
  | ended {f' : Frame} {c' : LineCursor} {z' : Bytes} (hf : f.block.IsLeaf) (hf' : f'.block.IsLeaf)
      (hc : c'.Left source c₀ z') (hz : Onward z z') : Fits source c c₀ z f (.close f' c')
  | keep {c' : LineCursor} {z' : Bytes} (hf : f.block.isContainer = true) (hc : c'.Left source c₀ z') (hz : Onward z z')
      (hs : Solid z → Solid z') : Fits source c c₀ z f (.keep f c' true)
  | text {f' : Frame} {c' : LineCursor} (hf : f.block.IsLeaf) (hf' : f'.block.IsLeaf) (hc : c₀.SameLine c') :
      Fits source c c₀ z f (.keep f' c' false)

namespace Continuing

section

variable {source z : Bytes} {c c₀ : LineCursor} {f : Frame} {ctx : BlockContext} (h : c.Left source c₀ z)

include h

lemma fits_keep (hf : f.block.isContainer = true) : Verdict.Fits source c c₀ z f (.keep f c true) :=
  .keep hf h .refl id

omit h in
lemma fits_taken (hf : f.block.isContainer = true) {c' : LineCursor} {z' : Bytes} (hc : Taken source c₀ z c' z') :
    Verdict.Fits source c c₀ z f (.keep f c' true) :=
  .keep hf hc.left hc.onward hc.solid

lemma list_fits (hf : f.block.isContainer = true) (last : Bool) (marker : UInt8) (offset : Nat) (isEmpty : Bool) :
    (list last ctx f marker offset isEmpty c).2.Fits source c c₀ z f := by
  rw [list, h.isBlank_rest]
  dsimp only
  split
  · exact fits_keep h hf
  · rename_i hz
    have hclose : Verdict.Fits source c c₀ z f (.close f c) := .stop hf (.inr (by simpa using hz))
    have hkeep := fits_keep h hf
    repeat' split
    all_goals first | exact hclose | exact hkeep

lemma context_list (last : Bool) (marker : UInt8) (offset : Nat) (isEmpty : Bool) :
    (list last ctx f marker offset isEmpty c).1 =
      if Bytes.isBlank z && isEmpty then { ctx with emptyItem := true } else ctx := by
  rw [list, h.isBlank_rest]
  dsimp only
  cases Bytes.isBlank z with
  | true => rw [if_pos rfl, Bool.true_and]
  | false =>
    rw [if_neg Bool.false_ne_true, Bool.false_and, if_neg Bool.false_ne_true]
    repeat' split
    all_goals rfl

lemma listItem_fits (hf : f.block.isContainer = true) (offset : Nat) (isEmpty : Bool) :
    (listItem ctx f offset isEmpty c).2.Fits source c c₀ z f := by
  rw [listItem, h.isBlank_rest]
  dsimp only
  split
  · rename_i hz
    have hlen := h.length_rest
    have hleft := h.advance (n := c.rest.length - 1) (by omega)
    rw [List.drop_of_length_le (by omega)] at hleft
    refine .keep hf hleft (.blank rfl List.not_mem_nil) fun hs => ?_
    rw [hs.isBlank] at hz
    cases hz
  · rename_i hz
    have hclose : Verdict.Fits source c c₀ z f (.close f c) := .stop hf (.inr (by simpa using hz))
    have hinside : ∀ {count padding : Nat}, Indent.take? c.rest c.column 0 offset = some (count, padding) →
        Verdict.Fits source c c₀ z f (.keep f (c.advancePadded count padding) true) :=
      fun htake => fits_taken hf (Taken.indent h (Indent.take?_spec htake).1 _)
    split
    · split
      · exact hclose
      · split
        · exact hclose
        · split
          · rename_i htake
            exact hinside htake
          · exact fits_keep h hf
    · split
      · rename_i htake
        exact hinside htake
      · exact fits_keep h hf

lemma codeBlock_fits (hf : f.block.IsLeaf) : (codeBlock source f c).Fits source c c₀ z f := by
  rw [codeBlock]
  dsimp only
  split
  · exact .text hf hf h.sameLine
  · split
    · exact .ended hf hf h .refl
    · rename_i count padding htake
      obtain ⟨hle, -⟩ := h.indent (Indent.take?_spec htake).1
      exact .text hf hf (Opening.sameLine_code (h.advancePadded hle padding))

lemma fencedCode_fits (hf : f.block.IsLeaf) (mark : UInt8) (indent length : Nat) :
    (fencedCode f mark indent length c).Fits source c c₀ z f := by
  have hlast : (c.rest.getLast? == some Bytes.newline) = true := by
    rw [h.rest_eq, ← List.append_assoc, List.getLast?_concat]
    rfl
  have hlen := h.length_rest
  have htaken := h.taken_add
  rw [fencedCode]
  dsimp only
  rw [hlast, if_pos rfl]
  split
  · have hleft := h.advance (n := c.rest.length - 1) (by omega)
    rw [List.drop_of_length_le (by omega)] at hleft
    exact .ended hf hf hleft (.blank rfl List.not_mem_nil)
  · refine .text hf hf (h.advancePadded ?_ _).sameLine
    simp only [LineCursor.span]
    omega

lemma html_fits {type : Nat} {closure : Option Span} (hb : f.block = .html type closure) (hf : f.block.IsLeaf)
    (hn : Bytes.newline ∉ z) : (html source f type c).Fits source c c₀ z f := by
  have hclose : Verdict.Fits source c c₀ z f (.close f c) := .ended hf hf h .refl
  have hkeep : Verdict.Fits source c c₀ z f (.keep (f.addLine c.span) c.toLastByte false) :=
    .text hf hf h.sameLine_toLastByte
  have htype : type = 1 ∨ 6 ≤ type := by rwa [hb] at hf
  -- Nothing but white space is left behind the end of a raw element.
  have hended : type = 1 → Verdict.Fits source c c₀ z f (.close { f with block := .html type (some c.span) }
      (c.advance (Bytes.trimRight Bytes.isSpace c.rest).length)) := by
    intro hone
    have hle : (Bytes.trimRight Bytes.isSpace c.rest).length ≤ c.padding + z.length := by
      rw [h.rest_eq, ← List.append_assoc]
      refine (Bytes.length_trimRight_concat_le rfl).trans ?_
      rw [List.length_append, Bytes.length_spaces]
    refine .ended hf (.inl hone) (h.advance hle) (.blank ?_ fun hmem => hn (List.drop_subset _ _ hmem))
    refine List.all_eq_true.mpr fun b hb => List.all_eq_true.mp (Bytes.isBlank_drop_trimRight c.rest) b ?_
    generalize (Bytes.trimRight Bytes.isSpace c.rest).length = n at hb hle
    rw [h.rest_eq, List.drop_append, Bytes.length_spaces, List.drop_append_of_le_length (by omega)]
    exact List.mem_append_right _ (List.mem_append_left _ hb)
  rw [html]
  dsimp only
  rcases htype with rfl | hsix
  · rw [if_pos (beq_self_eq_true 1)]
    split_ifs
    · exact hclose
    · exact hended rfl
    · exact hkeep
  · rw [if_neg (by rw [beq_iff_eq]; omega), if_neg (by omega)]
    split_ifs
    · exact hclose
    · exact hkeep

lemma block_fits (hf : f.block.isContainer = true ∨ f.block.IsLeaf) (hn : Bytes.newline ∉ z) (last : Bool)
    (inner : List Frame) : (block source last ctx f inner c).2.Fits source c c₀ z f := by
  rw [block]
  split <;> rename_i hb
  · exact .ended (by rw [hb]; trivial) (by rw [hb]; trivial) h .refl
  · exact .ended (by rw [hb]; trivial) (by rw [hb]; trivial) h .refl
  · exact .ended (by rw [hb]; trivial) (by rw [hb]; trivial) h .refl
  · exact codeBlock_fits h (by rw [hb]; trivial)
  · exact fencedCode_fits h (by rw [hb]; trivial) _ _ _
  · split
    · rename_i c' hc'
      obtain ⟨z', htaken, -⟩ := quoteMarker?_taken h hc'
      exact fits_taken (by rw [hb]; rfl) htaken
    · exact .stop (by rw [hb]; rfl) (.inl hb)
  · exact list_fits h (by rw [hb]; rfl) _ _ _ _
  · exact listItem_fits h (by rw [hb]; rfl) _ _
  · refine html_fits h hb (hf.resolve_left ?_) hn
    rw [hb]
    exact Bool.false_ne_true
  all_goals
    rw [hb] at hf
    rcases hf with hf | hf <;> cases hf

lemma emptyItem_block (last : Bool) (inner : List Frame)
    (hempty : (block source last ctx f inner c).1.emptyItem = true) : ctx.emptyItem = true ∨
      Bytes.isBlank z = true ∧ f.block.isList = true ∧ (lastItem f inner).2 = true := by
  revert hempty
  rw [block]
  split
  case h_6 => split <;> exact .inl
  case h_7 hb =>
    dsimp only
    rw [context_list h]
    split
    · rename_i hempty
      rw [Bool.and_eq_true] at hempty
      exact fun _ => .inr ⟨hempty.1, by rw [hb]; rfl, hempty.2⟩
    · exact .inl
  case h_8 =>
    rw [listItem]
    dsimp only
    repeat' split
    all_goals exact .inl
  all_goals exact .inl

end

end Continuing

/-! ### Going on with blocks inside of each other -/

def Frame.Stocked (f : Frame) : Prop :=
  match f.block with
  | .list .. => (Continuing.lastItem f []).2 = false
  | .listItem _ => f.children ≠ []
  | _ => True

lemma stocked_of_isLeaf {f : Frame} (hf : f.block.IsLeaf) : f.Stocked := by
  rw [Frame.Stocked]
  cases hb : f.block <;> rw [hb] at hf <;> trivial

lemma snd_lastItem {f : Frame} {inner : List Frame} (h : ∀ g ∈ (f :: inner).getLast?, g.Stocked)
    (hf : f.block.isList = true) : (Continuing.lastItem f inner).2 = false := by
  cases inner with
  | nil =>
    have hlist := h f rfl
    rw [Frame.Stocked] at hlist
    cases hb : f.block <;> rw [hb] at hf hlist <;> first | exact hlist | cases hf
  | cons i deeper =>
    rw [Continuing.lastItem]
    split
    · rename_i offset hi
      cases deeper with
      | cons g deeper => exact Bool.and_false _
      | nil =>
        have hitem := h i rfl
        rw [Frame.Stocked, hi] at hitem
        simpa using hitem
    · rfl

/-- How far a line belongs to blocks that are open inside of each other, and what is left of the line there. -/
inductive Match.Fits (source : Bytes) (c₀ : LineCursor) (z : Bytes) (kept frames : List Frame) : Match → Prop
  | taken {fs : List Frame} (hfs : Nested fs) {f : Frame} (hlast : fs.getLast? = some f) (hf : f.block.IsLeaf) :
      Fits source c₀ z kept frames (.taken (kept ++ fs))
  | inside {c : LineCursor} {z' : Bytes} {depth : Nat} (hall : ∀ f ∈ frames, f.block.isContainer = true)
      (hc : c.Left source c₀ z') (hz : Onward z z') (hs : Solid z → Solid z') :
      Fits source c₀ z kept frames (.inside (kept ++ frames) c depth)
  | upTo {pre left : List Frame} {c : LineCursor} {z' : Bytes} (hpre : pre <+: frames)
      (hcontainers : ∀ f ∈ pre, f.block.isContainer = true) (hleft : Nested left) {f : Frame} (hhead : left.head? = some f)
      (hf : f.block.IsLeaf ∨ f.block = .blockquote ∨ Bytes.isBlank z' = false) (hc : c.Left source c₀ z')
      (hz : Onward z z') (hs : Solid z → (∀ f ∈ frames, f.block.isContainer = true) → Solid z') :
      Fits source c₀ z kept frames (.upTo (kept ++ pre) left c)

lemma Match.Fits.inner {source z z' : Bytes} {c₀ : LineCursor} {kept inner : List Frame} {f : Frame} {m : Match}
    (h : m.Fits source c₀ z' (kept ++ [f]) inner) (hf : f.block.isContainer = true) (hz : Onward z z')
    (hs : Solid z → Solid z') : m.Fits source c₀ z kept (f :: inner) := by
  cases h with
  | @taken fs hfs g hlast hg =>
    rw [List.append_assoc]
    refine .taken (.inside hf hfs) ?_ hg
    cases fs with
    | nil => cases hlast
    | cons k fs => rwa [List.singleton_append, List.getLast?_cons_cons]
  | inside hall hc hz' hs' =>
    rw [List.append_assoc]
    exact .inside (List.forall_mem_cons.mpr ⟨hf, hall⟩) hc (hz.trans hz') (hs' ∘ hs)
  | upTo hpre hcontainers hleft hhead hg hc hz' hs' =>
    rw [List.append_assoc]
    refine .upTo (List.cons_prefix_cons.mpr ⟨rfl, hpre⟩) (List.forall_mem_cons.mpr ⟨hf, hcontainers⟩) hleft hhead hg hc
      (hz.trans hz') fun hsolid hall => hs' (hs hsolid) ?_
    exact (List.forall_mem_cons.mp hall).2

lemma Onward.newline_notMem {x z : Bytes} (h : Onward x z) (hn : Bytes.newline ∉ x) : Bytes.newline ∉ z := by
  cases h with
  | behind h => exact fun hz => hn (by rw [h]; exact List.mem_append_right _ hz)
  | blank _ hz => exact hz

lemma Nested.block {f : Frame} {fs : List Frame} (h : Nested (f :: fs)) :
    f.block.isContainer = true ∧ Nested fs ∨ f.block.IsLeaf ∧ fs = [] := by
  cases h with
  | leaf hf => exact .inr ⟨hf, rfl⟩
  | inside hf h => exact .inl ⟨hf, h⟩

lemma OpenBlock.not_isLeaf_of_isContainer {b : OpenBlock} (h : b.isContainer = true) : ¬ b.IsLeaf := by
  cases b <;> first | exact id | cases h

lemma Match.Fits.here {source z z' : Bytes} {c c₀ : LineCursor} {kept frames left : List Frame} {f : Frame}
    (hleft : Nested left) (hhead : left.head? = some f)
    (hf : f.block.IsLeaf ∨ f.block = .blockquote ∨ Bytes.isBlank z' = false) (hc : c.Left source c₀ z') (hz : Onward z z')
    (hs : Solid z → (∀ f ∈ frames, f.block.isContainer = true) → Solid z') :
    Match.Fits source c₀ z kept frames (.upTo kept left c) := by
  have h : Match.Fits source c₀ z kept frames (.upTo (kept ++ []) left c) :=
    .upTo List.nil_prefix (by simp) hleft hhead hf hc hz hs
  rwa [List.append_nil] at h

def Unemptied (z : Bytes) (frames : List Frame) : Prop :=
  (∀ f ∈ frames.getLast?, f.Stocked) ∨ Solid z ∧ ∀ f ∈ frames, f.block.isContainer = true

lemma Continuing.emptyItem_of_unemptied {source z : Bytes} {c c₀ : LineCursor} {f : Frame} {inner : List Frame}
    {ctx : BlockContext} (h : c.Left source c₀ z) (hcond : Unemptied z (f :: inner)) (last : Bool)
    (htrue : (block source last ctx f inner c).1.emptyItem = true) : ctx.emptyItem = true := by
  rcases emptyItem_block h last inner htrue with he | ⟨hz, hlist, hempty⟩
  · exact he
  · rcases hcond with hstocked | ⟨hsolid, -⟩
    · rw [snd_lastItem hstocked hlist] at hempty
      cases hempty
    · rw [hsolid.isBlank] at hz
      cases hz

lemma Unemptied.inner {z z' : Bytes} {f k : Frame} {inner : List Frame} (h : Unemptied z (f :: k :: inner))
    (hs : Solid z → Solid z') : Unemptied z' (k :: inner) := by
  rcases h with hstocked | ⟨hsolid, hall⟩
  · exact .inl (by simpa [List.getLast?_cons_cons] using hstocked)
  · exact .inr ⟨hs hsolid, (List.forall_mem_cons.mp hall).2⟩

/-- A line is matched against blocks that are open inside of each other. No list is found to have an empty item if the
innermost block is stocked, or if there is text on the line for the containers. -/
theorem matchFrames_fits {source z : Bytes} {c c₀ : LineCursor} {frames : List Frame} (h : c.Left source c₀ z)
    (hn : Bytes.newline ∉ z) (hframes : Nested frames) (hne : frames ≠ []) (last : Bool) (number : Nat) (ctx : BlockContext)
    (depth : Nat) (kept : List Frame) :
    let r := matchFrames source last number ctx c depth kept frames
    r.2.Fits source c₀ z kept frames ∧ r.1.footnotes = ctx.footnotes ∧
      (Unemptied z frames → r.1.emptyItem = true → ctx.emptyItem = true) := by
  induction frames generalizing z c ctx depth kept with
  | nil => contradiction
  | cons f inner ih =>
    intro r
    have hr : r = matchFrames source last number ctx c depth kept (f :: inner) := rfl
    rw [matchFrames, h.peek?_eq] at hr
    dsimp only at hr
    split at hr
    · rename_i hparagraph
      have hleaf : f.block.IsLeaf := by
        rw [OpenBlock.eq_paragraph_of_grade (OpenBlock.isParagraph_iff.mp hparagraph)]
        trivial
      rw [hr]
      exact ⟨.here hframes rfl (.inl hleaf) h .refl fun _ hall =>
        absurd hleaf (OpenBlock.not_isLeaf_of_isContainer (hall f List.mem_cons_self)), rfl, fun _ => id⟩
    · generalize hctx : ({ ctx with stats := _ :: ctx.stats } : BlockContext) = ctx₁ at hr
      have hnotes : ctx₁.footnotes = ctx.footnotes := by rw [← hctx]
      have hempty : ctx₁.emptyItem = ctx.emptyItem := by rw [← hctx]
      have hblock : f.block.isContainer = true ∨ f.block.IsLeaf := hframes.block.imp And.left And.left
      have hfits := @Continuing.block_fits source z c c₀ f ctx₁ h hblock hn last inner
      have hnotes' := @Continuing.footnotes_block source c f last ctx₁ inner
      have hsteady := fun hcond => @Continuing.emptyItem_of_unemptied source z c c₀ f inner ctx₁ h hcond last
      rw [hnotes] at hnotes'
      rw [hempty] at hsteady
      generalize Continuing.block source last ctx₁ f inner c = verdict at hr hfits hnotes' hsteady
      obtain ⟨ctx₂, v⟩ := verdict
      cases hfits with
      | stop hf hz =>
        rw [hr]
        exact ⟨.here hframes rfl (.inr hz) h .refl fun hsolid _ => hsolid, hnotes', hsteady⟩
      | @ended f' c' z' hf hf' hc hz =>
        obtain rfl : inner = [] := (hframes.block.resolve_left fun hc => OpenBlock.not_isLeaf_of_isContainer hc.1 hf).2
        rw [hr]
        exact ⟨.here (.leaf hf') rfl (.inl hf') hc hz fun _ hall =>
          absurd hf (OpenBlock.not_isLeaf_of_isContainer (hall f List.mem_cons_self)), hnotes', hsteady⟩
      | @keep c' z' hf hc hz hs =>
        cases inner with
        | nil =>
          rw [hr]
          exact ⟨.inside (List.forall_mem_singleton.mpr hf) hc hz hs, hnotes', hsteady⟩
        | cons k inner =>
          have hinner := (hframes.block.resolve_right fun hl => absurd hl.2 (List.cons_ne_nil _ _)).2
          obtain ⟨hfits, hnotes'', hempty''⟩ := ih hc (hz.newline_notMem hn) hinner (List.cons_ne_nil _ _) ctx₂ (depth + 1) (kept ++ [f])
          rw [hr]
          exact ⟨hfits.inner hf hz hs, hnotes''.trans hnotes',
            fun hcond htrue => hsteady hcond (hempty'' (hcond.inner hs) htrue)⟩
      | @text f' c' hf hf' hc =>
        obtain rfl : inner = [] := (hframes.block.resolve_left fun hc => OpenBlock.not_isLeaf_of_isContainer hc.1 hf).2
        rw [hr]
        exact ⟨.taken (.leaf hf') rfl hf', hnotes', hsteady⟩

/-! ### Closing -/

section

variable {g : Grammar} {source : Bytes} {ctx : BlockContext} {f : Frame}

lemma settleParagraph_after (lines : List Span) (blank : Bool) :
    ((settleParagraph g source ctx lines blank).2.1 = none → (settleParagraph g source ctx lines blank).2.2 ≠ []) ∧
      ∀ n ∈ (settleParagraph g source ctx lines blank).2.2, ∀ offset, n.kind ≠ .listItem offset := by
  rw [settleParagraph]
  dsimp only
  split
  · exact ⟨fun _ => List.cons_ne_nil _ _, List.forall_mem_singleton.mpr fun offset h => by cases h⟩
  · split
    · exact ⟨(fun h => by cases h), by simp⟩
    · rename_i found hfound
      split at hfound
      · obtain ⟨a, ha⟩ := kind_of_find? hfound
        refine ⟨fun _ => List.cons_ne_nil _ _, List.forall_mem_singleton.mpr fun offset h => ?_⟩
        rw [ha] at h
        cases h
      · cases hfound

lemma Steady.closeFrame (hf : f.block.isContainer = true ∨ f.block.IsLeaf) :
    Steady ctx (MarkdownTidy.closeFrame g source ctx f).1 := by
  rw [MarkdownTidy.closeFrame]
  split <;> rename_i hb
  · have hsettle := Steady.settleParagraph g source ctx f.lines f.blankBefore
    generalize MarkdownTidy.settleParagraph g source ctx f.lines f.blankBefore = settled at hsettle
    obtain ⟨ctx', _ | kept, after⟩ := settled <;> exact hsettle
  · dsimp only
    rw [headingAttributes]
    split <;> exact ⟨rfl, id⟩
  case h_7 =>
    split <;> exact .refl ctx
  case h_10 =>
    rw [hb] at hf
    rcases hf with hf | hf <;> cases hf
  case h_12 =>
    rw [hb] at hf
    rcases hf with hf | hf <;> cases hf
  all_goals exact .refl ctx

lemma closeFrame_ne_nil (hf : f.block.isContainer = true ∨ f.block.IsLeaf) : (closeFrame g source ctx f).2 ≠ [] := by
  rw [closeFrame]
  split <;> rename_i hb
  · have hafter := @settleParagraph_after g source ctx f.lines f.blankBefore
    generalize settleParagraph g source ctx f.lines f.blankBefore = settled at hafter
    obtain ⟨ctx', _ | kept, after⟩ := settled
    · exact hafter.1 rfl
    · exact List.cons_ne_nil _ _
  case h_7 => split <;> exact List.cons_ne_nil _ _
  case h_10 =>
    rw [hb] at hf
    rcases hf with hf | hf <;> cases hf
  case h_12 =>
    rw [hb] at hf
    rcases hf with hf | hf <;> cases hf
  all_goals exact List.cons_ne_nil _ _

lemma closeFrame_kinds (hf : f.block.IsLeaf ∨ f.block = .blockquote) :
    ∀ n ∈ (closeFrame g source ctx f).2, ∀ offset, n.kind ≠ .listItem offset := by
  rw [closeFrame]
  split <;> rename_i hb
  · have hafter := @settleParagraph_after g source ctx f.lines f.blankBefore
    generalize settleParagraph g source ctx f.lines f.blankBefore = settled at hafter
    obtain ⟨ctx', _ | kept, after⟩ := settled
    · exact hafter.2
    · exact List.forall_mem_cons.mpr ⟨fun _ => Kind.noConfusion, hafter.2⟩
  case h_7 =>
    rw [hb] at hf
    rcases hf with hf | hf <;> cases hf
  case h_8 =>
    rw [hb] at hf
    rcases hf with hf | hf <;> cases hf
  case h_10 =>
    rw [hb] at hf
    rcases hf with hf | hf <;> cases hf
  case h_12 =>
    rw [hb] at hf
    rcases hf with hf | hf <;> cases hf
  all_goals exact List.forall_mem_singleton.mpr fun _ => Kind.noConfusion

lemma Steady.closeFrames {frames : List Frame} (h : Nested frames) (ctx : BlockContext) :
    Steady ctx (MarkdownTidy.closeFrames g source ctx frames).1 := by
  induction h with
  | nil => exact .refl ctx
  | leaf hf => exact .closeFrame (.inr hf)
  | inside hf _ ih => exact ih.trans (.closeFrame (.inl hf))

lemma closeFrames_head {frames : List Frame} (h : Nested frames) (hhead : f ∈ frames.head?) (ctx : BlockContext) :
    (closeFrames g source ctx frames).2 ≠ [] ∧ (f.block.IsLeaf ∨ f.block = .blockquote →
      ∀ n ∈ (closeFrames g source ctx frames).2, ∀ offset, n.kind ≠ .listItem offset) := by
  cases frames with
  | nil => cases hhead
  | cons f' fs =>
    obtain rfl : f' = f := by simpa using hhead
    have hf : f'.block.isContainer = true ∨ f'.block.IsLeaf := h.block.imp And.left And.left
    rw [closeFrames]
    exact ⟨closeFrame_ne_nil hf, fun hleaf => closeFrame_kinds (f := f'.addChildren _) hleaf⟩

end

/-! ### Reading a line -/

lemma Nested.append_leaf {fs : List Frame} {f f' : Frame} (h : Nested (fs ++ [f])) (hf : f'.block.IsLeaf) :
    Nested (fs ++ [f']) := by
  induction fs with
  | nil => exact .leaf hf
  | cons k fs ih =>
    obtain ⟨hk, h⟩ := h.block.resolve_right fun hl => by simp at hl
    exact .inside hk (ih h)

lemma Nested.forall_isContainer {fs : List Frame} {f : Frame} (h : Nested fs) (hlast : fs.getLast? = some f)
    (hf : f.block.isContainer = true) : ∀ g ∈ fs, g.block.isContainer = true := by
  induction h with
  | nil => simp
  | @leaf f' hleaf =>
    obtain rfl : f' = f := by simpa using hlast
    exact absurd hleaf (OpenBlock.not_isLeaf_of_isContainer hf)
  | @inside f' fs hf' _ ih =>
    refine List.forall_mem_cons.mpr ⟨hf', ?_⟩
    cases fs with
    | nil => simp
    | cons k fs => exact ih (by rwa [List.getLast?_cons_cons] at hlast)

lemma Nested.append {fs fs' : List Frame} (h : ∀ f ∈ fs, f.block.isContainer = true) (h' : Nested fs') :
    Nested (fs ++ fs') := by
  induction fs with
  | nil => exact h'
  | cons f fs ih =>
    rw [List.forall_mem_cons] at h
    exact .inside h.1 (ih h.2)

lemma stocked_addChildren {f : Frame} {nodes : List Node} (hne : nodes ≠ [])
    (h : ∀ n ∈ nodes, ∀ offset, n.kind ≠ .listItem offset) : (f.addChildren nodes).Stocked := by
  have hlast : (f.children ++ nodes).getLast? = some (nodes.getLast hne) := by
    rw [List.getLast?_append_of_ne_nil _ hne, List.getLast?_eq_some_getLast hne]
  rw [Frame.Stocked, Frame.addChildren]
  dsimp only
  split
  · rw [Continuing.lastItem]
    dsimp only
    rw [hlast]
    dsimp only
    split
    · rename_i offset hk
      exact absurd hk (h _ (List.getLast_mem hne) offset)
    · rfl
  · exact List.append_ne_nil_of_right_ne_nil _ hne
  · trivial

lemma OpeningState.Opens.stocked {c₀ : LineCursor} {z : Bytes} {s r : OpeningState} {new : List Frame}
    (h : Opens c₀ z s r new) (hne : new ≠ []) (f : Frame) : (∀ g ∈ (f :: new).getLast?, g.Stocked) ∨
      EndsInMarker z ∧ new ≠ [] ∧ ∀ g ∈ new, g.block.isContainer = true := by
  obtain ⟨k, hk⟩ : ∃ k, new.getLast? = some k := ⟨_, List.getLast?_eq_some_getLast hne⟩
  have hlast : (f :: new).getLast? = some k := by
    rw [← List.singleton_append, List.getLast?_append_of_ne_nil _ hne, hk]
  rw [hlast]
  rcases h.ends k hk with hb | hb | ⟨hcontainer, hb⟩
  · exact .inl fun g hg => (Option.some.inj hg) ▸ stocked_of_isLeaf hb
  · refine .inl fun g hg => ?_
    obtain rfl := Option.some.inj hg
    rw [Frame.Stocked, hb]
    trivial
  · exact .inr ⟨hb, hne, h.nested.forall_isContainer hk hcontainer⟩

namespace BlockState

lemma attach_concat (t : BlockState) (outer : List Frame) (h : Frame) (nodes : List Node) :
    t.attach (outer ++ [h]) nodes = { t with frames := outer ++ [h.addChildren nodes] } := by
  rw [attach, List.getLast?_concat]
  dsimp only
  rw [List.dropLast_concat]

lemma stocked_closeFrames {source : Bytes} {left : List Frame} {h : Frame} (hleft : Nested left)
    (hhead : ∀ f ∈ left.head?, f.block.IsLeaf ∨ f.block = .blockquote) (hstocked : left = [] → h.Stocked)
    (g : Grammar) (ctx : BlockContext) : (h.addChildren (closeFrames g source ctx left).2).Stocked := by
  cases hl : left.head? with
  | none =>
    obtain rfl := List.head?_eq_none_iff.mp hl
    simpa [closeFrames, Frame.addChildren] using hstocked rfl
  | some f =>
    obtain ⟨hne, hkinds⟩ := @closeFrames_head g source f left hleft hl ctx
    exact stocked_addChildren hne (hkinds (hhead f hl))

lemma exists_paragraph_of_continuable {ctx : BlockContext} {c : LineCursor} {outer left : List Frame} {h : Frame}
    (hh : h.block.isContainer = true) (hmay : (OpeningState.start ctx c (outer ++ [h]) left).continuable = true) :
    ∃ fs p, left = fs ++ [p] ∧ p.block.isParagraph = true := by
  rcases List.eq_nil_or_concat left with rfl | ⟨fs, p, rfl⟩
  · simp only [OpeningState.start, List.isEmpty_nil, if_true, List.getLast?_concat, Option.map_some, Option.getD_some] at hmay
    rw [OpenBlock.eq_paragraph_of_grade (OpenBlock.isParagraph_iff.mp hmay)] at hh
    cases hh
  · refine ⟨fs, p, List.concat_eq_append, ?_⟩
    simpa [OpeningState.start] using hmay

/-- What is left of a quiet line behind the containers that go on opens blocks in the innermost of them, or goes on with
a paragraph in it; the blocks of `left` that end are handed to it. The innermost block is stocked again, unless nothing
is left of the line and it was not before, or the line ends in a list marker. -/
theorem exists_openAfter {source z : Bytes} {c c₀ : LineCursor} {s : BlockState} {outer left : List Frame} {h : Frame}
    {blank : Bool} (hc : c.Left source c₀ z) (hq : Quiet z) (hh : h.block.isContainer = true) (hleft : Nested left)
    (hhead : ∀ f ∈ left.head?, f.block.IsLeaf ∨ f.block = .blockquote ∨ Bytes.isBlank z = false) :
    let t := s.openAfter Plain.grammar source blank (outer ++ [h]) left c
    ∃ nodes tail, t.frames = outer ++ h.addChildren nodes :: tail ∧ Nested tail ∧ t.closed = s.closed ∧
      Steady s.context t.context ∧ c₀.SameLine t.cursor ∧
      ((Bytes.isBlank z = true → left = [] → h.Stocked) →
        (∀ f ∈ (h.addChildren nodes :: tail).getLast?, f.Stocked) ∨
          EndsInMarker z ∧ tail ≠ [] ∧ ∀ f ∈ tail, f.block.isContainer = true) := by
  have hlen := hc.length_rest
  have hroom := OpeningState.room_le z (.start s.context c (outer ++ [h]) left)
  obtain ⟨new, hopens⟩ := @OpeningState.exists_opens_run source z c₀ (.start s.context c (outer ++ [h]) left) blank hc hq
    (2 * c.rest.length + 2) (by omega)
  rw [openAfter, OpeningState.openBlocks_eq_run]
  generalize (OpeningState.start s.context c (outer ++ [h]) left).run Plain.grammar source blank (2 * c.rest.length + 2) = r
    at hopens
  have hsteady := hopens.context
  have hsame := hopens.sameLine
  have hclosed : ∀ (ctx : BlockContext), Steady s.context ctx →
      Steady s.context (closeFrames Plain.grammar source ctx left).1 := fun ctx hctx => hctx.trans (.closeFrames hleft ctx)
  cases new with
  | cons f new =>
    have hopened : r.opened = f :: new := hopens.opened
    have hends := fun nodes => hopens.stocked (List.cons_ne_nil _ _) (h.addChildren nodes)
    simp only [hopened, List.isEmpty_cons, Bool.false_and, Bool.false_eq_true, if_false, attach_concat]
    cases r.settled with
    | some nodes =>
      exact ⟨nodes, f :: new, List.append_assoc _ _ _, hopens.nested, trivial, hsteady, hsame, fun _ => hends nodes⟩
    | none =>
      exact ⟨_, f :: new, List.append_assoc _ _ _, hopens.nested, trivial, hclosed _ hsteady, hsame, fun _ => hends _⟩
  | nil =>
    obtain ⟨hr, hz⟩ := hopens.nothing rfl
    generalize r.context = ctx at hr hsteady
    subst hr
    cases hblank : Bytes.isBlank z with
    | true =>
      have hlazy : continueParagraph? c left = none := by
        rw [continueParagraph?, hc.isBlank_rest, hblank]
        cases left.getLast? <;> simp
      simp only [OpeningState.start, List.isEmpty_nil, Bool.true_and, hlazy, ite_self, attach_concat, List.append_nil]
      refine ⟨_, [], rfl, .nil, trivial, hclosed ctx hsteady, hsame, fun hstocked => .inl ?_⟩
      rintro _ ⟨⟩
      exact stocked_closeFrames hleft (fun f hf => (hhead f hf).imp_right fun h => h.resolve_right (by simp [hblank]))
        (hstocked trivial) _ ctx
    | false =>
      -- The line goes on with a paragraph, whatever containers it misses.
      have hmay : (OpeningState.start s.context c (outer ++ [h]) left).continuable = true :=
        (hz.resolve_left (by simp [hblank])).1
      obtain ⟨fs, p, rfl, hp⟩ := exists_paragraph_of_continuable hh hmay
      have hleaf : p.block.IsLeaf := by
        rw [OpenBlock.eq_paragraph_of_grade (OpenBlock.isParagraph_iff.mp hp)]
        trivial
      have hlazy : continueParagraph? c (fs ++ [p]) = some (fs ++ [p.addLine c.span]) := by
        rw [continueParagraph?, List.getLast?_concat, hc.isBlank_rest, hblank]
        dsimp only
        rw [hp, List.dropLast_concat]
        rfl
      have hcursor : (OpeningState.start s.context c (outer ++ [h]) (fs ++ [p])).cursor = c := rfl
      simp only [hmay, hcursor]
      simp only [OpeningState.start, List.isEmpty_nil, Bool.and_self, if_true, hlazy]
      refine ⟨[], fs ++ [p.addLine c.span], ?_, hleft.append_leaf hleaf, trivial, hsteady, hsame, fun _ => .inl ?_⟩
      · simp [Frame.addChildren]
      · rw [← List.cons_append, List.getLast?_concat]
        rintro _ ⟨⟩
        exact stocked_of_isLeaf hleaf

end BlockState

end MarkdownTidy
