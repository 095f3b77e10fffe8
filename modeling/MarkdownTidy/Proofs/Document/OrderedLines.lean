import MarkdownTidy.Proofs.Document.OrderedItems

/-! The lines of an ordered list: markers with text behind them, and lines indented to the text of the item before
them. Such lines are read as one list with an item for each marker. -/

namespace MarkdownTidy

inductive Footing
  | firm
  | loose
  | lost

def Footing.afterBlank : Footing → Footing
  | .firm => .firm
  | _ => .lost

def Footing.Follows (z : Bytes) (f : Footing) : Prop := f = .firm → ¬ EndsInMarker z

/-- Lines of an ordered list on which `n` items begin, behind a line of an item with its text in the column `offset`. -/
inductive ItemLines (mark : UInt8) : Footing → Nat → Nat → List Bytes → Prop
  | done {f : Footing} {offset : Nat} : ItemLines mark f offset 0 []
  | blank {f : Footing} {offset n : Nat} {ls : List Bytes} (h : ItemLines mark f.afterBlank offset n ls) :
      ItemLines mark f offset n ([] :: ls)
  | text {f g : Footing} {offset n : Nat} {z : Bytes} {ls : List Bytes} (hz : Bytes.isBlank z = false) (hq : Quiet z)
      (hf : f = .firm ∨ f = .loose ∧ Solid z) (hg : g.Follows z) (h : ItemLines mark g offset n ls) :
      ItemLines mark f offset n ((Bytes.spaces offset ++ z) :: ls)
  | item {f g : Footing} {offset n : Nat} {m y z : Bytes} {ls : List Bytes} (hm : IsOrdinal mark m) (hy : Content y z)
      (hq : Quiet z) (hg : g = .lost ∨ y ≠ [] ∧ g.Follows z) (h : ItemLines mark g (m.length + 1) n ls) :
      ItemLines mark f offset (n + 1) ((m ++ y) :: ls)

inductive ListLines (mark : UInt8) (m : Bytes) (n : Nat) : List Bytes → Prop
  | mk {f : Footing} {y z : Bytes} {ls : List Bytes} (hy : Content y z) (hq : Quiet z)
      (hf : f = .lost ∨ y ≠ [] ∧ f.Follows z) (h : ItemLines mark f (m.length + 1) n ls) : ListLines mark m n ((m ++ y) :: ls)

lemma ListLines.item {mark : UInt8} {m : Bytes} {offset n : Nat} {f : Footing} {ls : List Bytes} (h : ListLines mark m n ls)
    (hm : IsOrdinal mark m) : ItemLines mark f offset (n + 1) ls := by
  obtain ⟨hy, hq, hf, h⟩ := h
  exact .item hm hy hq hf h

lemma Content.newline_notMem {y z : Bytes} (hy : Content y z) (hq : Quiet z) : Bytes.newline ∉ y := by
  cases hy with
  | none => exact List.not_mem_nil
  | text hz =>
    rw [List.mem_cons, not_or]
    exact ⟨by decide, hq.newline⟩

lemma IsOrdinal.newline_notMem {mark : UInt8} {m : Bytes} (hm : IsOrdinal mark m) (hmark : mark = byte '.' ∨ mark = byte ')') :
    Bytes.newline ∉ m := by
  obtain ⟨k, hk, rfl⟩ := hm
  exact IsMarker.newline_notMem (.inr ⟨k, mark, hk, hmark, rfl⟩)

lemma ItemLines.newline_notMem {mark : UInt8} {f : Footing} {offset n : Nat} {ls : List Bytes}
    (h : ItemLines mark f offset n ls) (hmark : mark = byte '.' ∨ mark = byte ')') : ∀ l ∈ ls, Bytes.newline ∉ l := by
  induction h with
  | done => simp
  | blank _ ih => exact List.forall_mem_cons.mpr ⟨List.not_mem_nil, ih⟩
  | text _ hq _ _ _ ih =>
    refine List.forall_mem_cons.mpr ⟨fun hn => ?_, ih⟩
    rcases List.mem_append.mp hn with hn | hn
    · cases List.eq_of_mem_replicate hn
    · exact hq.newline hn
  | item hm hy hq _ _ ih =>
    refine List.forall_mem_cons.mpr ⟨fun hn => ?_, ih⟩
    exact (List.mem_append.mp hn).elim (hm.newline_notMem hmark) (hy.newline_notMem hq)

lemma ListLines.newline_notMem {mark : UInt8} {m : Bytes} {n : Nat} {ls : List Bytes} (h : ListLines mark m n ls)
    (hm : IsOrdinal mark m) (hmark : mark = byte '.' ∨ mark = byte ')') : ∀ l ∈ ls, Bytes.newline ∉ l := by
  obtain ⟨hy, hq, -, h⟩ := h
  refine List.forall_mem_cons.mpr ⟨fun hn => ?_, h.newline_notMem hmark⟩
  exact (List.mem_append.mp hn).elim (hm.newline_notMem hmark) (hy.newline_notMem hq)

lemma ItemLines.of_lost {mark : UInt8} {offset n : Nat} {ls : List Bytes} (h : ItemLines mark .lost offset n ls) (f : Footing) :
    ItemLines mark f offset n ls := by
  generalize hlost : Footing.lost = g at h
  induction h generalizing f with
  | done => exact .done
  | blank h ih =>
    subst hlost
    exact .blank (ih f.afterBlank rfl)
  | text hz hq hf hg h _ =>
    subst hlost
    rcases hf with hf | ⟨hf, -⟩ <;> cases hf
  | item hm hy hq hg h _ => exact .item hm hy hq hg h

namespace BlockState

variable {source : Bytes} {s : BlockState} {mark : UInt8} {start n offset k number at_ : Nat} {list item : Frame}
  {inner : List Frame} {ls : List Bytes} {f : Footing}

def Bears (s : BlockState) (item : Frame) (inner : List Frame) : Footing → Prop
  | .firm => s.context.emptyItem = false ∧ ∀ f ∈ (item :: inner).getLast?, f.Stocked
  | .loose => s.context.emptyItem = false ∧ Ready item inner
  | .lost => True

lemma bears_of_follows {z : Bytes} (hctx : s.context.emptyItem = false)
    (h : (∀ f ∈ (item :: inner).getLast?, f.Stocked) ∨ EndsInMarker z ∧ Ready item inner) (hf : f.Follows z) :
    s.Bears item inner f := by
  cases f with
  | lost => trivial
  | loose => exact ⟨hctx, h.elim .inl And.right⟩
  | firm => exact ⟨hctx, h.resolve_right fun he => hf rfl he.1⟩

def LeavesList (t : BlockState) (mark : UInt8) (start count : Nat) : Prop :=
  ∃ info tight children, t.closed = [.mk info children] ∧ info.kind = .list mark start tight ∧ info.lines = [] ∧
    children.length = count ∧ t.context.footnotes = []

lemma exists_closeFrame_list {g : Grammar} {f : Frame} (hf : f.block = .list mark start) (hlines : f.lines = [])
    (ctx : BlockContext) :
    ∃ info tight children, (closeFrame g source ctx f).2 = [.mk info children] ∧ info.kind = .list mark start tight ∧
      info.lines = [] ∧ children.length = f.children.length := by
  simp only [closeFrame, hf]
  split
  · exact ⟨_, true, _, rfl, rfl, rfl, List.length_map _⟩
  · exact ⟨_, false, _, rfl, rfl, hlines, rfl⟩

lemma InItem.finish (h : s.InItem mark start n offset list item inner) :
    (s.finish Plain.grammar source).LeavesList mark start (n + 1) := by
  obtain ⟨ctx, node, hclose⟩ : ∃ ctx node, closeFrames Plain.grammar source s.context (item :: inner) = (ctx, [node]) := by
    simp only [closeFrames, closeFrame, Frame.addChildren, h.placed]
    exact ⟨_, _, rfl⟩
  have hsteady : Steady s.context (closeFrames Plain.grammar source s.context (list :: item :: inner)).1 :=
    .closeFrames (.inside (by rw [h.marked]; rfl) (.inside (by rw [h.placed]; rfl) h.nested)) _
  have hnotes := hsteady.footnotes.trans h.footnotes
  rw [closeFrames, hclose] at hnotes
  obtain ⟨info, tight, children, hnode, hkind, hlines, hlength⟩ :=
    @exists_closeFrame_list source mark start Plain.grammar (list.addChildren [node]) h.marked h.lines ctx
  refine ⟨info, tight, children, ?_, hkind, hlines, ?_, ?_⟩
  · rw [BlockState.finish, h.frames, h.closed, closeFrames, hclose]
    exact hnode
  · rw [hlength, Frame.addChildren, List.length_append, h.items, List.length_singleton]
  · rw [BlockState.finish, h.frames, closeFrames, hclose]
    exact hnotes

lemma InItem.isEmpty_frames (h : s.InItem mark start n offset list item inner) : s.frames.isEmpty = false := by
  rw [h.frames, List.isEmpty_cons]

lemma InItem.withCursor (h : s.InItem mark start n offset list item inner) (c : LineCursor) :
    { s with cursor := c }.InItem mark start n offset list item inner :=
  ⟨h.closed, h.footnotes, h.frames, h.marked, h.lines, h.items, h.placed, h.behind, h.nested⟩

lemma readLines_line {g : Grammar} {x : Bytes} (hf : s.frames.isEmpty = false) (hc : s.cursor = .front number at_ (x :: ls))
    (hsame : (LineCursor.front number at_ (x :: ls)).SameLine (s.readLine g source).cursor) (fuel : Nat) :
    s.readLines g source (fuel + 1) =
      readLines g source fuel { s.readLine g source with cursor := .front (number + 1) (at_ + (x.length + 1)) ls } := by
  rw [readLines, hf, if_neg Bool.false_ne_true, hc, LineCursor.peek?_front_cons, ← LineCursor.nextLine_of_sameLine hsame]

/-- Lines of an ordered list leave the list with its items, and nothing else. -/
theorem InItem.readLines (hlines : ItemLines mark f offset k ls) (hmark : mark = byte '.' ∨ mark = byte ')')
    (h : s.InItem mark start n offset list item inner) (hbears : s.Bears item inner f) (hcursor : s.cursor = .front number at_ ls)
    (hahead : source.drop at_ = Bytes.unlines ls) {fuel : Nat} (hfuel : ls.length < fuel) :
    (s.readLines Plain.grammar source fuel).LeavesList mark start (n + 1 + k) := by
  induction hlines generalizing s n number at_ list item inner fuel with
  | done =>
    obtain ⟨fuel, rfl⟩ : ∃ i, fuel = i + 1 := ⟨fuel - 1, by omega⟩
    rw [readLines_end h.isEmpty_frames (by rw [hcursor, LineCursor.peek?_front_nil])]
    exact h.finish
  | @blank f offset k ls hls ih =>
    obtain ⟨fuel, rfl⟩ : ∃ i, fuel = i + 1 := ⟨fuel - 1, by omega⟩
    obtain ⟨item', inner', hreads⟩ := h.exists_reads .empty hcursor hahead quiet_nil
    rw [readLines_line h.isEmpty_frames hcursor hreads.sameLine]
    refine ih (hreads.inItem.withCursor _) ?_ rfl (Plain.drop_line hahead) (Nat.lt_of_succ_lt_succ hfuel)
    cases f with
    | firm =>
      obtain ⟨hctx, hready⟩ := hreads.ready hbears.1 (.inl hbears.2)
      exact bears_of_follows (f := .firm) hctx hready fun _ hends => by cases hends.isBlank
    | loose => trivial
    | lost => trivial
  | @text f g offset k z ls hz hq hf hg hls ih =>
    obtain ⟨fuel, rfl⟩ : ∃ i, fuel = i + 1 := ⟨fuel - 1, by omega⟩
    obtain ⟨hctx, hready, hcond⟩ : s.context.emptyItem = false ∧ Ready item inner ∧
        ((∀ f ∈ (item :: inner).getLast?, f.Stocked) ∨ Solid z ∧ Ready item inner) := by
      rcases hf with rfl | ⟨rfl, hsolid⟩
      · exact ⟨hbears.1, .inl hbears.2, .inl hbears.2⟩
      · exact ⟨hbears.1, hbears.2, .inr ⟨hsolid, hbears.2⟩⟩
    obtain ⟨item', inner', hreads⟩ := h.exists_reads (.indented hz hctx hready) hcursor hahead hq
    obtain ⟨hctx', hready'⟩ := hreads.ready hctx hcond
    rw [readLines_line h.isEmpty_frames hcursor hreads.sameLine]
    refine ih (hreads.inItem.withCursor _) ?_ rfl (Plain.drop_line hahead) (Nat.lt_of_succ_lt_succ hfuel)
    exact bears_of_follows hctx' hready' hg
  | @item f g offset k m y z ls hm hy hq hg hls ih =>
    obtain ⟨fuel, rfl⟩ : ∃ i, fuel = i + 1 := ⟨fuel - 1, by omega⟩
    obtain ⟨list', item', inner', hstarts⟩ := h.exists_starts hm hmark hy hq hcursor hahead
    rw [readLines_line h.isEmpty_frames hcursor hstarts.sameLine, show n + 1 + (k + 1) = n + 1 + 1 + k by omega]
    refine ih (hstarts.inItem.withCursor _) ?_ rfl (Plain.drop_line hahead) (Nat.lt_of_succ_lt_succ hfuel)
    rcases hg with rfl | ⟨hne, hg⟩
    · trivial
    · exact bears_of_follows hstarts.emptyItem (hstarts.ready.resolve_left hne) hg

end BlockState

variable {mark : UInt8} {k n : Nat} {m : Bytes} {ls : List Bytes}

open BlockState in
/-- Lines of an ordered list from its first marker on are the blocks of a source. -/
theorem readBlocks_ordered (hk : k < 10 ^ 9) (hmark : mark = byte '.' ∨ mark = byte ')') (hm : m = decimal k ++ [mark])
    (hls : ListLines mark m n ls) (names : MarkdownAttributes) :
    let r := readBlocks Plain.grammar names (Bytes.unlines ls)
    ∃ info tight children, r.1 = [.mk info children] ∧ info.kind = .list mark k tight ∧ info.lines = [] ∧
      children.length = n + 1 ∧ r.2.footnotes = [] := by
  have hordinal : IsOrdinal mark m := ⟨k, hk, hm⟩
  have hn := hls.newline_notMem hordinal hmark
  obtain @⟨f, y, z, ls, hy, hq, hf, hls⟩ := hls
  intro r
  have hlen : (Bytes.lines (Bytes.unlines ((m ++ y) :: ls))).length = ls.length + 1 := by
    rw [Bytes.lines_unlines hn, List.length_map, List.length_cons]
  have hblank : Bytes.isBlank (m ++ y) = false := by
    obtain ⟨b, x, rfl, hb, -⟩ := hordinal.exists_cons
    simp [Bytes.isBlank, hb]
  obtain ⟨blank, hread⟩ := @readLines_first (Bytes.unlines ((m ++ y) :: ls)) 0 0 (m ++ y) ls
    { context := { names := names }, cursor := .front 0 0 ((m ++ y) :: ls) } rfl rfl hblank (ls.length + 1)
  obtain ⟨item, new, hopened, hblock, hnested, hfootnotes, hempty, hsame, hready⟩ :=
    @OpeningState.exists_run_first mark m y z (Bytes.unlines ((m ++ y) :: ls)) 0 0 ls blank { names := names } k hk hmark hm hy hq
      rfl ⟨rfl, rfl⟩
  rw [openAfter_nil] at hread
  dsimp only at hread hopened hfootnotes hempty hsame
  generalize OpeningState.run Plain.grammar _ blank _ _ = o at hread hopened hfootnotes hempty hsame
  rw [hopened, List.isEmpty_cons, if_neg Bool.false_ne_true, LineCursor.nextLine_of_sameLine hsame] at hread
  generalize hs : BlockState.mk o.context _ _ _ = s at hread
  have hitem : s.InItem mark k 0 (m.length + 1) ⟨.list mark k, blank, [], []⟩ item new := by
    rw [← hs]
    exact ⟨rfl, hfootnotes, rfl, rfl, rfl, rfl, hblock, Nat.succ_pos _, hnested⟩
  have hbears : s.Bears item new f := by
    rcases hf with rfl | ⟨hne, hf⟩
    · trivial
    · exact bears_of_follows (by rw [← hs]; exact hempty) (hready.resolve_left hne) hf
  have hahead : (Bytes.unlines ((m ++ y) :: ls)).drop (0 + ((m ++ y).length + 1)) = Bytes.unlines ls :=
    Plain.drop_line rfl
  have hlist := hitem.readLines hls hmark hbears (by rw [← hs]) hahead (Nat.lt_succ_self ls.length)
  have hr : r = (readBlocks Plain.grammar names (Bytes.unlines ((m ++ y) :: ls))) := rfl
  rw [readBlocks, hlen, LineCursor.ofSource_unlines hn] at hr
  rw [hread] at hr
  rw [hr, Nat.add_comm n 1, ← Nat.zero_add 1]
  exact hlist

/-- A list that is all of a document keeps its items when their texts are read. -/
theorem exists_parseDocument_list {g : Grammar} {names : MarkdownAttributes} {source : Bytes} {info : Info}
    {children : List Node} {start : Nat} {tight : Bool} (hblocks : (readBlocks g names source).1 = [.mk info children])
    (hk : info.kind = .list mark start tight) (hlines : info.lines = [])
    (hnotes : (readBlocks g names source).2.footnotes = []) :
    ∃ children', (parseDocument g names source).1.children = [.mk info children'] ∧ children'.length = children.length := by
  have hkinds : ∀ {ns ms : List Node}, ns.map Node.kind = ms.map Node.kind → ns.length = ms.length := by
    intro ns ms h
    rw [← List.length_map Node.kind, h, List.length_map]
  obtain ⟨ns, hns, hdoc⟩ : ∃ ns, ns.length = children.length ∧
      (readDocument g names source).document = .leaf .document [.mk info ns] := by
    rcases hr : readBlocks g names source with ⟨blocks, ctx⟩
    rw [hr] at hblocks hnotes
    dsimp only at hblocks hnotes
    refine ⟨_, hkinds ((kinds_readTexts ⟨g, source, ctx.references⟩ info.kind true ⟨ctx.names, [], []⟩
      (Footnotes.fillNodes [] children)).trans (kinds_fillNodes [] children)), ?_⟩
    simp only [readDocument, hr, hblocks, hnotes, Footnotes.fillNodes, Footnotes.fillNode, hk, readTexts, readText, hlines,
      List.isEmpty_nil, Bool.or_true, if_true, List.map_nil]
  obtain ⟨ns', hns', hresolved⟩ : ∃ ns', ns'.length = ns.length ∧
      (readDocument g names source).resolvePipes.document = .leaf .document [.mk info ns'] := by
    rw [RawDocument.resolvePipes]
    split
    · exact ⟨ns, rfl, hdoc⟩
    · refine ⟨_, hkinds (kinds_unhidePipesIn (readDocument g names source).hiddenPipes false ns), ?_⟩
      simp only [hdoc, Node.leaf, unhidePipes, unhidePipesIn, hk]
  have hfootnotes : (readDocument g names source).resolvePipes.footnotes = [] := by
    rw [RawDocument.resolvePipes]
    split <;> exact hnotes
  refine ⟨ns', ?_, hns'.trans hns⟩
  rw [parseDocument, RawDocument.finish]
  dsimp only
  rw [RawDocument.placeFootnotes, Footnotes.place, hfootnotes, hresolved]
  rfl

end MarkdownTidy
