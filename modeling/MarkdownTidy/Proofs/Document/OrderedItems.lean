import MarkdownTidy.Proofs.Document.ItemLine
import MarkdownTidy.Proofs.Document.NestedLines

/-! The items of an ordered list. Lines behind a marker, or indented to the content of the item before them, are read as
the items of one list, whatever blocks they begin in them. -/

namespace MarkdownTidy

/-! ### Lines indented to the content of an item -/

namespace Indent

lemma measure_go_spaces (k column w n : Nat) (x : Bytes) :
    measure.go column w n (Bytes.spaces k ++ x) = measure.go column (w + k) (n + k) x := by
  induction k generalizing w n with
  | zero => rfl
  | succ k ih =>
    rw [Bytes.spaces_succ, List.cons_append, measure.go, if_pos (beq_self_eq_true _), ih]
    congr 1 <;> omega

lemma le_measure_spaces (k column : Nat) (x : Bytes) : k ≤ (measure (Bytes.spaces k ++ x) column).1 := by
  rw [measure, measure_go_spaces]
  simpa using Plain.le_measure_go x column (0 + k) (0 + k)

lemma take?_spaces (k column : Nat) (x : Bytes) : take? (Bytes.spaces k ++ x) column 0 k = some (k, 0) := by
  have hgo : ∀ j w, j + w = k → take?.go column 0 k w w 0 (Bytes.spaces j ++ x) = some (k, 0) := by
    intro j
    induction j with
    | zero =>
      intro w hw
      obtain rfl : w = k := by omega
      rw [Bytes.spaces, List.replicate_zero, List.nil_append]
      cases x <;> simp [take?.go, take?.finish]
    | succ j ih =>
      intro w hw
      have htab : (byte ' ' == byte '\t') = false := by decide
      have hlt : w < k := by omega
      rw [Bytes.spaces_succ, List.cons_append, take?.go]
      simp only [htab, Bool.false_and, Bool.false_eq_true, if_false, beq_self_eq_true, hlt, decide_true, Bool.and_self,
        if_true]
      exact ih (w + 1) (by omega)
  rw [take?]
  split
  · rename_i hk
    rw [beq_iff_eq.mp hk]
  · exact hgo k 0 rfl

end Indent

namespace Continuing

variable {c : LineCursor} {f : Frame} {ctx : BlockContext} {offset : Nat}

lemma list_indented (hctx : ctx.emptyItem = false) (hz : Bytes.isBlank c.rest = false)
    (hoffset : offset ≤ (Indent.measure c.rest c.column).1) (last : Bool) (mark : UInt8) :
    list last ctx f mark offset false c = (ctx, .keep f c true) := by
  have hnear : decide ((Indent.measure c.rest c.column).1 < offset) = false := decide_eq_false (by omega)
  rw [list, hz, if_neg Bool.false_ne_true]
  dsimp only
  rw [hnear, Bool.or_false, Bool.false_and, if_neg Bool.false_ne_true, if_neg (by omega), hctx, if_neg Bool.false_ne_true]

lemma listItem_indented (hz : Bytes.isBlank c.rest = false) (hoffset : offset ≤ (Indent.measure c.rest c.column).1)
    {count padding : Nat} (htake : Indent.take? c.rest c.column 0 offset = some (count, padding)) :
    listItem ctx f offset false c = (ctx, .keep f (c.advancePadded count padding) true) := by
  have hnear : decide ((Indent.measure c.rest c.column).1 < offset) = false := decide_eq_false (by omega)
  rw [listItem, hz, if_neg Bool.false_ne_true]
  dsimp only
  rw [Bool.false_and, hnear, Bool.or_false, Bool.false_and, if_neg Bool.false_ne_true, htake]

end Continuing

lemma matchFrames_keep {source : Bytes} {last : Bool} {number depth : Nat} {ctx ctx' : BlockContext} {c c' : LineCursor}
    {kept inner : List Frame} {f : Frame} {line : Bytes} (hc : c.peek? = some line) (hf : f.block.isContainer = true)
    (hblock : Continuing.block source last { ctx with stats := ⟨number, depth, Bytes.isBlank line⟩ :: ctx.stats } f inner c =
      (ctx', .keep f c' true)) :
    matchFrames source last number ctx c depth kept (f :: inner) =
      if inner.isEmpty then (ctx', .inside (kept ++ [f]) c' depth)
      else matchFrames source last number ctx' c' (depth + 1) (kept ++ [f]) inner := by
  have hparagraph : f.block.isParagraph = false := by
    cases hb : f.block <;> rw [hb] at hf <;> first | rfl | cases hf
  rw [matchFrames, hc]
  dsimp only
  rw [hparagraph, if_neg Bool.false_ne_true, hblock]
  rfl

/-! ### Lines in an item -/

namespace BlockState

/-- An ordered list and its last item are the only blocks open in the document, `inner` those in the item. -/
structure InItem (s : BlockState) (mark : UInt8) (start n offset : Nat) (list item : Frame) (inner : List Frame) : Prop where
  closed : s.closed = []
  footnotes : s.context.footnotes = []
  frames : s.frames = list :: item :: inner
  marked : list.block = .list mark start
  lines : list.lines = []
  items : list.children.length = n
  placed : item.block = .listItem offset
  behind : 0 < offset
  nested : Nested inner

def Ready (item : Frame) (inner : List Frame) : Prop :=
  (∀ f ∈ (item :: inner).getLast?, f.Stocked) ∨ inner ≠ [] ∧ ∀ f ∈ inner, f.block.isContainer = true

variable {source z : Bytes} {c₀ : LineCursor} {s : BlockState} {mark : UInt8} {start n offset : Nat} {list item : Frame}
  {inner : List Frame}

lemma InItem.lastItem_eq (h : s.InItem mark start n offset list item inner) :
    Continuing.lastItem list (item :: inner) = (offset, item.children.isEmpty && inner.isEmpty) := by
  rw [Continuing.lastItem, h.placed]

lemma InItem.isEmpty_eq_false (h : s.InItem mark start n offset list item inner) (hready : Ready item inner) :
    (item.children.isEmpty && inner.isEmpty) = false := by
  rcases hready with hstocked | ⟨hne, -⟩
  · have hlist : list.block.isList = true := by rw [h.marked]; rfl
    have hlast := snd_lastItem (by rwa [List.getLast?_cons_cons]) hlist
    rwa [h.lastItem_eq] at hlast
  · cases inner with
    | nil => contradiction
    | cons k inner => exact Bool.and_false _

/-- What reading a line inside of an item comes to. -/
structure Reads (s t : BlockState) (c₀ : LineCursor) (z : Bytes) (mark : UInt8) (start n offset : Nat) (list item : Frame)
    (inner : List Frame) (item' : Frame) (inner' : List Frame) : Prop where
  inItem : t.InItem mark start n offset list item' inner'
  sameLine : c₀.SameLine t.cursor
  ready : s.context.emptyItem = false →
    ((∀ f ∈ (item :: inner).getLast?, f.Stocked) ∨ Solid z ∧ Ready item inner) →
      t.context.emptyItem = false ∧ ((∀ f ∈ (item' :: inner').getLast?, f.Stocked) ∨ EndsInMarker z ∧ Ready item' inner')

lemma InItem.openAfter (h : s.InItem mark start n offset list item inner) {pre left : List Frame} {c : LineCursor} {ctx : BlockContext} {z' : Bytes}
    (blank : Bool) (hc : c.Left source c₀ z') (hq : Quiet z') (hpre : ∀ f ∈ pre, f.block.isContainer = true)
    (hleft : Nested left) (hhead : ∀ f ∈ left.head?, f.block.IsLeaf ∨ f.block = .blockquote ∨ Bytes.isBlank z' = false)
    (hctx : ctx.footnotes = []) :
    let t := BlockState.openAfter Plain.grammar source { s with context := ctx } blank ([list, item] ++ pre) left c
    ∃ item' inner', t.InItem mark start n offset list item' inner' ∧ c₀.SameLine t.cursor ∧
      (t.context.emptyItem = true → ctx.emptyItem = true) ∧
      ((Bytes.isBlank z' = true → left = [] → ∀ f ∈ (item :: pre).getLast?, f.Stocked) →
        (∀ f ∈ (item' :: inner').getLast?, f.Stocked) ∨ EndsInMarker z' ∧ Ready item' inner') := by
  have hitem : item.block.isContainer = true := by
    rw [h.placed]
    rfl
  rcases List.eq_nil_or_concat pre with rfl | ⟨pre, k, rfl⟩
  · obtain ⟨nodes, tail, hframes, htail, hclosed, hsteady, hsame, hstocked⟩ :=
      @exists_openAfter source z' c c₀ { s with context := ctx } [list] left item blank hc hq hitem hleft hhead
    refine ⟨item.addChildren nodes, tail, ⟨hclosed.trans h.closed, hsteady.footnotes.trans hctx, hframes, h.marked, h.lines,
      h.items, h.placed, h.behind, htail⟩, hsame, hsteady.emptyItem, fun hcond => ?_⟩
    refine (hstocked fun hz hl => hcond hz hl item rfl).imp_right (And.imp_right .inr)
  · rw [List.concat_eq_append] at hpre ⊢
    rw [List.forall_mem_append] at hpre
    obtain ⟨nodes, tail, hframes, htail, hclosed, hsteady, hsame, hstocked⟩ :=
      @exists_openAfter source z' c c₀ { s with context := ctx } ([list, item] ++ pre) left k blank hc hq
        (hpre.2 k List.mem_cons_self) hleft hhead
    rw [← List.append_assoc]
    have hnested : Nested (pre ++ k.addChildren nodes :: tail) := .append hpre.1 (.inside (hpre.2 k List.mem_cons_self) htail)
    refine ⟨item, pre ++ k.addChildren nodes :: tail, ⟨hclosed.trans h.closed, hsteady.footnotes.trans hctx, hframes, h.marked,
      h.lines, h.items, h.placed, h.behind, hnested⟩, hsame, hsteady.emptyItem, fun hcond => ?_⟩
    rw [← List.cons_append, List.getLast?_append_of_ne_nil _ (List.cons_ne_nil _ _)]
    refine (hstocked fun hz hl => hcond hz hl k ?_).imp_right fun ⟨hends, hne, hall⟩ => ⟨hends, .inr ⟨by simp, ?_⟩⟩
    · rw [← List.cons_append, List.getLast?_concat]
      rfl
    · exact List.forall_mem_append.mpr ⟨hpre.1, List.forall_mem_cons.mpr ⟨hpre.2 k List.mem_cons_self, hall⟩⟩

inductive Reaches (s : BlockState) (offset : Nat) (item : Frame) (inner : List Frame) : Bytes → Bytes → Prop
  | empty : Reaches s offset item inner [] []
  | indented {z : Bytes} (hz : Bytes.isBlank z = false) (hctx : s.context.emptyItem = false) (hready : Ready item inner) :
      Reaches s offset item inner (Bytes.spaces offset ++ z) z

lemma left_front (number : Nat) {at_ : Nat} {x : Bytes} {ls : List Bytes} (h : source.drop at_ = Bytes.unlines (x :: ls)) :
    (LineCursor.front number at_ (x :: ls)).Left source (.front number at_ (x :: ls)) x := by
  refine ⟨.refl _, rfl, Bytes.unlines ls, ?_⟩
  exact (List.append_assoc x [Bytes.newline] _).trans ((Bytes.unlines_cons x ls).symm.trans h.symm)

variable {number at_ : Nat} {x : Bytes} {ls : List Bytes}

variable (number) in
/-- The list and its last item go on with the lines of the item. -/
lemma InItem.keeps (h : s.InItem mark start n offset list item inner) (hx : Reaches s offset item inner x z)
    (hahead : source.drop at_ = Bytes.unlines (x :: ls)) :
    let c := LineCursor.front number at_ (x :: ls)
    ∃ c', c'.Left source c z ∧ ∀ last, (∀ ctx, ctx.emptyItem = s.context.emptyItem → ∃ ctx',
        Continuing.block source last ctx list (item :: inner) c = (ctx', .keep list c true) ∧
          ctx'.footnotes = ctx.footnotes ∧ ((Bytes.isBlank z && (item.children.isEmpty && inner.isEmpty)) = false →
            ctx'.emptyItem = ctx.emptyItem)) ∧
      ∀ ctx, Continuing.block source last ctx item inner c = (ctx, .keep item c' true) := by
  intro c
  have hleft : c.Left source c x := left_front number hahead
  have hrest : c.rest = x ++ [Bytes.newline] := LineCursor.rest_front_cons
  cases hx with
  | empty =>
    have hadvance := hleft.advance (n := 0) (Nat.zero_le _)
    refine ⟨c.advance 0, hadvance, fun last => ⟨fun ctx _ => ?_, fun ctx => ?_⟩⟩
    · rw [Continuing.block, h.marked]
      dsimp only
      rw [h.lastItem_eq, Continuing.list, hrest]
      refine ⟨_, rfl, ?_, fun hitem => ?_⟩
      · split <;> rfl
      · rw [show (item.children.isEmpty && inner.isEmpty) = false from hitem]
        rfl
    · rw [Continuing.block, h.placed]
      dsimp only
      rw [Continuing.listItem, hrest]
      rfl
  | indented hz hctx hready =>
    have hadvance := hleft.advancePadded (n := offset) (by simp [c, LineCursor.front]) 0
    have hdrop : (Bytes.spaces offset ++ z).drop (offset - c.padding) = z := Bytes.drop_spaces
    rw [hdrop] at hadvance
    have hblank : Bytes.isBlank c.rest = false := by
      rw [hleft.isBlank_rest, Bool.eq_false_iff, ne_eq, isBlank_append, hz]
      simp
    have hindent : offset ≤ (Indent.measure c.rest c.column).1 := by
      rw [hrest, List.append_assoc]
      exact Indent.le_measure_spaces _ _ _
    have hempty := h.isEmpty_eq_false hready
    refine ⟨c.advancePadded offset 0, hadvance, fun last => ⟨fun ctx he => ?_, fun ctx => ?_⟩⟩
    · rw [Continuing.block, h.marked]
      dsimp only
      rw [h.lastItem_eq, hempty, Continuing.list_indented (he.trans hctx) hblank hindent]
      exact ⟨ctx, rfl, rfl, fun _ => rfl⟩
    · rw [Continuing.block, h.placed]
      dsimp only
      have htake : Indent.take? c.rest c.column 0 offset = some (offset, 0) := by
        rw [hrest, List.append_assoc]
        exact Indent.take?_spaces _ _ _
      rw [hempty, Continuing.listItem_indented hblank hindent htake]

variable (number) in
/-- How far a line of an item belongs to the blocks in the item. -/
lemma InItem.matchFrames (h : s.InItem mark start n offset list item inner) (hx : Reaches s offset item inner x z)
    (hahead : source.drop at_ = Bytes.unlines (x :: ls)) (hn : Bytes.newline ∉ z) (last : Bool) :
    let c := LineCursor.front number at_ (x :: ls)
    let r := MarkdownTidy.matchFrames source last number s.context c 0 [] (list :: item :: inner)
    r.2.Fits source c z [list, item] inner ∧ r.1.footnotes = [] ∧
      (s.context.emptyItem = false → (∀ f ∈ (item :: inner).getLast?, f.Stocked) ∨ Solid z ∧ Ready item inner →
        r.1.emptyItem = false) := by
  intro c r
  have hleft : c.Left source c x := left_front number hahead
  obtain ⟨c', hc', hkeeps⟩ := h.keeps number hx hahead
  have hlist : list.block.isContainer = true := by rw [h.marked]; rfl
  have hitem : item.block.isContainer = true := by rw [h.placed]; rfl
  have hr : r = MarkdownTidy.matchFrames source last number s.context c 0 [] (list :: item :: inner) := rfl
  obtain ⟨ctx₁, hblock, hnotes, hitem₁⟩ := (hkeeps last).1
    { s.context with stats := ⟨number, 0, Bytes.isBlank (Bytes.spaces c.padding ++ (x ++ [Bytes.newline]))⟩ :: s.context.stats } rfl
  rw [matchFrames_keep hleft.peek?_eq hlist hblock, List.isEmpty_cons, if_neg Bool.false_ne_true,
    matchFrames_keep hleft.peek?_eq hitem ((hkeeps last).2 _)] at hr
  generalize hctx : ({ ctx₁ with stats := _ } : BlockContext) = ctx at hr
  replace hnotes : ctx.footnotes = [] := by
    rw [← hctx]
    exact hnotes.trans h.footnotes
  -- The item is not empty where the innermost block is stocked, or where there is text on the line.
  have hempty : s.context.emptyItem = false → (∀ f ∈ (item :: inner).getLast?, f.Stocked) ∨ Solid z ∧ Ready item inner →
      ctx.emptyItem = false := by
    intro hfalse hcond
    rw [← hctx]
    refine (hitem₁ ?_).trans hfalse
    rcases hcond with hstocked | ⟨hsolid, -⟩
    · rw [h.isEmpty_eq_false (.inl hstocked), Bool.and_false]
    · rw [hsolid.isBlank, Bool.false_and]
  rw [hr]
  cases inner with
  | nil => exact ⟨.inside (by simp) hc' .refl id, hnotes, hempty⟩
  | cons k inner =>
    obtain ⟨hfits, hnotes', hempty'⟩ :=
      matchFrames_fits hc' hn h.nested (List.cons_ne_nil k inner) last number ctx 2 [list, item]
    refine ⟨hfits, hnotes'.trans hnotes, fun hfalse hcond => ?_⟩
    rw [Bool.eq_false_iff]
    intro htrue
    have hcond' : (∀ f ∈ (k :: inner).getLast?, f.Stocked) ∨ Solid z ∧ ∀ f ∈ k :: inner, f.block.isContainer = true := by
      rw [Ready, List.getLast?_cons_cons] at hcond
      rcases hcond with hstocked | ⟨hsolid, hstocked | ⟨-, hall⟩⟩
      · exact .inl hstocked
      · exact .inl hstocked
      · exact .inr ⟨hsolid, hall⟩
    rw [hempty hfalse hcond] at hempty'
    exact Bool.false_ne_true (hempty' hcond' htrue)

lemma stocked_append {item : Frame} {fs : List Frame} {f : Frame} (hlast : fs.getLast? = some f) (hf : f.block.IsLeaf) :
    ∀ g ∈ (item :: fs).getLast?, g.Stocked := by
  cases fs with
  | nil => cases hlast
  | cons k fs =>
    rw [List.getLast?_cons_cons, hlast]
    rintro _ ⟨⟩
    exact stocked_of_isLeaf hf

/-- A line of an item is read inside of it. -/
theorem InItem.exists_reads (h : s.InItem mark start n offset list item inner) (hx : Reaches s offset item inner x z)
    (hcursor : s.cursor = .front number at_ (x :: ls)) (hahead : source.drop at_ = Bytes.unlines (x :: ls)) (hq : Quiet z) :
    ∃ item' inner', Reads s (s.readLine Plain.grammar source) (.front number at_ (x :: ls)) z mark start n offset list item
      inner item' inner' := by
  have hnumber : s.cursor.number = number := by rw [hcursor, LineCursor.number_front]
  have hmatch := h.matchFrames number hx hahead hq.newline ((s.frames.getLast?.map (·.block.isParagraph)).getD false)
  dsimp only at hmatch
  rw [← h.frames, ← hcursor] at hmatch
  rw [readLine, hnumber, ← hcursor]
  generalize MarkdownTidy.matchFrames source _ number s.context s.cursor 0 [] s.frames = r at hmatch
  obtain ⟨ctx, m⟩ := r
  obtain ⟨hfits, hnotes, hempty⟩ := hmatch
  cases hfits with
  | @taken fs hfs f hlast hf =>
    refine ⟨item, fs, ⟨h.closed, hnotes, rfl, h.marked, h.lines, h.items, h.placed, h.behind, hfs⟩, .refl _, ?_⟩
    exact fun hfalse hcond => ⟨hempty hfalse hcond, .inl (stocked_append hlast hf)⟩
  | @inside c z' depth hall hc hz hs =>
    dsimp only
    obtain ⟨item', inner', hin, hsame, hsteady, hready⟩ :=
      h.openAfter (ctx.blankBefore number (depth + 1)) hc (hq.onward hz) hall .nil (by simp) hnotes
    refine ⟨item', inner', hin, hsame, fun hfalse hcond => ⟨?_, ?_⟩⟩
    · rw [Bool.eq_false_iff]
      intro htrue
      rw [hempty hfalse hcond] at hsteady
      exact Bool.false_ne_true (hsteady htrue)
    · refine (hready fun hblank _ => ?_).imp_right (And.imp_left fun he => he.onward hz)
      rcases hcond with hstocked | ⟨hsolid, -⟩
      · exact hstocked
      · rw [(hs hsolid).isBlank] at hblank
        cases hblank
  | @upTo pre left c z' hpre hcontainers hleft f hhead hf hc hz hs =>
    dsimp only
    obtain ⟨item', inner', hin, hsame, hsteady, hready⟩ :=
      h.openAfter (ctx.blankBefore number ([list, item] ++ pre).length) hc (hq.onward hz) hcontainers hleft
        (fun g hg => by
          obtain rfl : g = f := by simpa [hhead] using hg.symm
          exact hf) hnotes
    refine ⟨item', inner', hin, hsame, fun hfalse hcond => ⟨?_, ?_⟩⟩
    · rw [Bool.eq_false_iff]
      intro htrue
      rw [hempty hfalse hcond] at hsteady
      exact Bool.false_ne_true (hsteady htrue)
    · refine (hready fun _ hnil => ?_).imp_right (And.imp_left fun he => he.onward hz)
      rw [hnil] at hhead
      cases hhead

end BlockState

/-! ### Lines that begin an item -/

def IsOrdinal (mark : UInt8) (m : Bytes) : Prop := ∃ k < 10 ^ 9, m = decimal k ++ [mark]

inductive Content : Bytes → Bytes → Prop
  | none : Content [] []
  | text {z : Bytes} (hz : Flush z) : Content (byte ' ' :: z) z

section

variable {mark : UInt8} {m y z : Bytes} {source : Bytes} {number at_ : Nat} {ls : List Bytes} {place : Place}

lemma Content.detached (h : Content y z) : Detached (y ++ [Bytes.newline]) := by
  cases h with
  | none =>
    rintro _ ⟨⟩
    exact .inr rfl
  | text hz => exact detached_space _

lemma IsOrdinal.read? (hm : IsOrdinal mark m) (hmark : mark = byte '.' ∨ mark = byte ')') {x : Bytes} (hx : Detached x) :
    ∃ k, ListMarker.read? (m ++ x) = some ⟨true, 0, m.length, k, mark, x⟩ := by
  obtain ⟨k, hk, rfl⟩ := hm
  refine ⟨k, ?_⟩
  rw [List.append_assoc, List.singleton_append, ListMarker.read?_decimal hk hmark hx, List.length_append,
    List.length_singleton]

lemma IsOrdinal.exists_cons (hm : IsOrdinal mark m) :
    ∃ b x, m = b :: x ∧ Bytes.isSpace b = false ∧ ∀ y, Plain.triggered (b :: y) = [.list, .listItem] := by
  obtain ⟨k, -, rfl⟩ := hm
  obtain ⟨c, ds, hc, hdigit⟩ := Writer.exists_decimal k
  obtain ⟨hspace, htriggered⟩ := triggered_digit hdigit
  exact ⟨c, ds ++ [mark], by rw [hc, List.cons_append], hspace, htriggered⟩

lemma IsOrdinal.head_ne (hm : IsOrdinal mark m) (x : Bytes) : (m ++ x).head? ≠ some Bytes.newline := by
  obtain ⟨b, t, rfl, hspace, -⟩ := hm.exists_cons
  rintro ⟨⟩
  cases hspace

variable (number) in
lemma exists_listItem_ordinal (hm : IsOrdinal mark m) (hmark : mark = byte '.' ∨ mark = byte ')') (hy : Content y z)
    (hahead : source.drop at_ = Bytes.unlines ((m ++ y) :: ls)) {offset : Nat} (hplace : place.holder = .list offset) :
    let c := LineCursor.front number at_ ((m ++ y) :: ls)
    ∃ o, Opening.listItem place c = some o ∧ o.block = .listItem (m.length + 1) ∧ o.takesParagraph = false ∧
      (y = [] ∧ o.descend = false ∧ o.cursor = c ∨
        Bytes.isBlank z = false ∧ o.descend = true ∧ o.cursor.Left source c z) := by
  intro c
  cases hy with
  | none =>
    obtain ⟨k, hread⟩ := hm.read? hmark (Content.none).detached
    have hrest : c.rest = m ++ ([] ++ [Bytes.newline]) := by
      rw [LineCursor.rest_front_cons, List.append_assoc]
    have hnear : ¬ 0 > offset + 3 := by omega
    refine ⟨{ block := .listItem (m.length + 1), cursor := c }, ?_, rfl, rfl, .inl ⟨rfl, rfl, rfl⟩⟩
    rw [Opening.listItem, hrest, hread, hplace]
    dsimp only
    rw [if_neg hnear]
    rfl
  | text hz =>
    have hmarker : IsMarker m := by
      obtain ⟨k, hk, rfl⟩ := hm
      exact .inr ⟨k, mark, hk, hmark, rfl⟩
    have hline : m ++ byte ' ' :: z = itemLine m z := by simp [itemLine]
    have hleft := BlockState.left_front number hahead
    dsimp only [c] at hleft ⊢
    rw [hline] at hleft ⊢
    refine ⟨_, listItem_itemLine hmarker hz hplace, rfl, rfl, .inr ⟨hz.isBlank, rfl, LineCursor.sameLine_within _, ?_, hleft.isPrefix⟩⟩
    simp [LineCursor.behindMarker, LineCursor.within, LineCursor.front, itemLine]

namespace OpeningState

lemma holder_place (s : OpeningState) : s.place.holder = s.holder := by
  rw [place]
  split
  · rfl
  · split <;> rfl

lemma settled_run {g : Grammar} {blank : Bool} {s : OpeningState} (h : s.opened ≠ []) (fuel : Nat) :
    (s.run g source blank fuel).settled = s.settled := by
  refine (run_induction (P := fun s' => s'.settled = s.settled ∧ s'.opened ≠ []) (fun hr hs => ?_) ⟨rfl, h⟩ fuel).1
  cases hr with
  | ended | silent => exact hs
  | opens => exact ⟨hs.1, by simp [push]⟩
  | defines _ hf htakes hlast | underlines _ hf htakes hlast =>
    exact absurd (takes_paragraph hf htakes hlast).1 hs.2

lemma exists_rules_ordinal (hm : IsOrdinal mark m) (s : OpeningState) (x : Bytes) :
    ∃ rs, s.rules Plain.grammar (m ++ x) = .list :: .listItem :: rs := by
  obtain ⟨b, t, rfl, hspace, htriggered⟩ := hm.exists_cons
  have hinterrupts : [BlockRule.list, .listItem].filter (fun r =>
      (!(s.continuable && s.opened.isEmpty) || r.interruptsParagraph) && (decide (0 ≤ 3) || r.acceptsIndent)) =
      [.list, .listItem] := by
    simp [BlockRule.interruptsParagraph]
  rw [Plain.rules_eq, List.cons_append, measure_cons hspace, List.drop_zero, htriggered, List.filter_append, hinterrupts]
  exact ⟨_, rfl⟩

/-- A marker opens an item in a list, and the text behind it opens blocks in the item. -/
lemma exists_run_ordinal {s : OpeningState} {blank : Bool} (hm : IsOrdinal mark m) (hmark : mark = byte '.' ∨ mark = byte ')')
    (hy : Content y z) (hq : Quiet z) (hahead : source.drop at_ = Bytes.unlines ((m ++ y) :: ls))
    (hcursor : s.cursor = .front number at_ ((m ++ y) :: ls)) {offset : Nat} (hholder : s.holder = .list offset)
    (hskip : (s.place.lastIsList || s.context.atNewItem) = true) {fuel : Nat} (hfuel : 2 * z.length + 3 < fuel) :
    let r := s.run Plain.grammar source blank fuel
    ∃ item new, r.opened = s.opened ++ item :: new ∧ item.block = .listItem (m.length + 1) ∧ Nested new ∧
      r.context.footnotes = s.context.footnotes ∧ r.context.emptyItem = false ∧
      (LineCursor.front number at_ ((m ++ y) :: ls)).SameLine r.cursor ∧ r.settled = s.settled ∧
      (y = [] ∨ (∀ f ∈ (item :: new).getLast?, f.Stocked) ∨ EndsInMarker z ∧ BlockState.Ready item new) := by
  obtain ⟨fuel, rfl⟩ : ∃ n, fuel = n + 1 := ⟨fuel - 1, by omega⟩
  obtain ⟨o, ho, hblock, htakes, hdescend⟩ :=
    exists_listItem_ordinal number hm hmark hy hahead (s.holder_place.trans hholder)
  have hpeek : s.cursor.peek? = some (m ++ y ++ [Bytes.newline]) := by rw [hcursor, LineCursor.peek?_front_cons]
  obtain ⟨rs, hrules⟩ : ∃ rs, s.rules Plain.grammar (m ++ y ++ [Bytes.newline]) = .list :: .listItem :: rs := by
    rw [List.append_assoc]
    exact exists_rules_ordinal hm s _
  have hfound : Opening.firstOf source s.place s.cursor s.context (s.rules Plain.grammar (m ++ y ++ [Bytes.newline])) =
      ({ s.context with atNewItem := false, emptyItem := false }, some o) := by
    rw [hrules, hcursor]
    simp only [Opening.firstOf, Opening.try_, hskip, if_true, ho]
  have hhead : ((m ++ y ++ [Bytes.newline]).head? == some Bytes.newline) = false := by
    rw [beq_eq_false_iff_ne, List.append_assoc]
    exact hm.head_ne _
  rw [run, hpeek]
  dsimp only
  rw [hhead, if_neg Bool.false_ne_true, hfound]
  dsimp only
  rw [htakes]
  dsimp only
  generalize hs' : ({ s with context := { s.context with atNewItem := false, emptyItem := false } } : OpeningState).push o
    { block := o.block, blankBefore := blank, lines := o.lines } = s'
  have hopened : s'.opened = s.opened ++ [{ block := o.block, blankBefore := blank, lines := o.lines }] := by
    rw [← hs', push]
  rcases hdescend with ⟨rfl, hdescend, hcur⟩ | ⟨hz, hdescend, hcur⟩
  · rw [hdescend, if_neg Bool.false_ne_true]
    refine ⟨_, [], hopened, hblock, .nil, ?_, ?_, ?_, ?_, .inl rfl⟩
    · rw [← hs', push]
    · rw [← hs', push]
    · rw [← hs', push, hcur]
      exact .refl _
    · rw [← hs', push]
  · have hcursor' : s'.cursor.Left source (.front number at_ ((m ++ y) :: ls)) z := by
      rw [← hs', push]
      exact hcur
    have hroom := s'.room_le z
    obtain ⟨new, hnew⟩ := @exists_opens_run source z _ s' blank hcursor' hq fuel (by omega)
    rw [hdescend, if_pos rfl]
    refine ⟨_, new, by rw [hnew.opened, hopened, List.append_assoc]; rfl, hblock, hnew.nested, ?_, ?_, hnew.sameLine, ?_, .inr ?_⟩
    · rw [hnew.context.footnotes, ← hs', push]
    · rw [Bool.eq_false_iff]
      intro htrue
      have hempty := hnew.context.emptyItem htrue
      rw [← hs', push] at hempty
      cases hempty
    · rw [settled_run (by rw [hopened]; simp), ← hs', push]
    · have hne : new ≠ [] := by
        intro hnil
        obtain ⟨-, hblank | ⟨-, hnone⟩⟩ := hnew.nothing hnil
        · rw [hz] at hblank
          cases hblank
        · rw [hopened] at hnone
          exact absurd hnone (by simp)
      exact (hnew.stocked hne _).imp_right (And.imp_right .inr)

lemma exists_run_first {blank : Bool} {ctx : BlockContext} {k : Nat} (hk : k < 10 ^ 9) (hmark : mark = byte '.' ∨ mark = byte ')')
    (hm : m = decimal k ++ [mark]) (hy : Content y z) (hq : Quiet z) (hahead : source.drop at_ = Bytes.unlines ((m ++ y) :: ls))
    (hctx : Calm ctx) :
    let c := LineCursor.front number at_ ((m ++ y) :: ls)
    let r := (start ctx c [] []).run Plain.grammar source blank (2 * c.rest.length + 2)
    ∃ item new, r.opened = ⟨.list mark k, blank, [], []⟩ :: item :: new ∧ item.block = .listItem (m.length + 1) ∧ Nested new ∧
      r.context.footnotes = [] ∧ r.context.emptyItem = false ∧ c.SameLine r.cursor ∧
      (y = [] ∨ (∀ f ∈ (item :: new).getLast?, f.Stocked) ∨ EndsInMarker z ∧ BlockState.Ready item new) := by
  intro c r
  have hordinal : IsOrdinal mark m := ⟨k, hk, hm⟩
  have hrest : c.rest = m ++ (y ++ [Bytes.newline]) := by rw [LineCursor.rest_front_cons, List.append_assoc]
  have hpeek : c.peek? = some (m ++ (y ++ [Bytes.newline])) := by rw [LineCursor.peek?_front_cons, List.append_assoc]
  have hlist : Opening.list (start ctx c [] []).place c = some { block := .list mark k, cursor := c, descend := true } := by
    have hread : ListMarker.read? c.rest = some ⟨true, 0, m.length, k, mark, y ++ [Bytes.newline]⟩ := by
      rw [hrest, hm, List.append_assoc, List.singleton_append, ListMarker.read?_decimal hk hmark hy.detached,
        List.length_append, List.length_singleton]
    rw [Opening.list, hread]
    rfl
  have hfound : Opening.firstOf source (start ctx c [] []).place c ctx
      ((start ctx c [] []).rules Plain.grammar (m ++ (y ++ [Bytes.newline]))) =
        ({ ctx with emptyItem := false }, some { block := .list mark k, cursor := c, descend := true }) := by
    obtain ⟨rs, hrules⟩ := exists_rules_ordinal hordinal (start ctx c [] []) (y ++ [Bytes.newline])
    have hplace : ((start ctx c [] []).place.lastIsList || ctx.atNewItem) = false := by
      rw [hctx.atNewItem, Bool.or_false]
      rfl
    rw [hrules]
    simp only [Opening.firstOf, Opening.try_, hplace, hlist, Bool.false_eq_true, if_false]
  have hfuel : 2 * z.length + 3 < 2 * c.rest.length + 1 := by
    obtain ⟨d, ds, hds, -⟩ := Writer.exists_decimal k
    rw [hrest, hm, hds]
    cases hy <;> simp <;> omega
  have hr : r = (start ctx c [] []).run Plain.grammar source blank (2 * c.rest.length + 1 + 1) := rfl
  rw [run_opens hpeek (hordinal.head_ne _) rfl hfound, if_pos rfl] at hr
  dsimp only at hr
  generalize hs : OpeningState.push _ _ _ = s at hr
  obtain ⟨item, new, hopened, hblock, hnested, hfootnotes, hempty, hsame, -, hready⟩ :=
    @exists_run_ordinal mark m y z source number at_ ls s blank hordinal hmark hy hq hahead (by rw [← hs]; rfl) 0
      (by rw [← hs]; rfl) (by rw [← hs]; rfl) _ hfuel
  rw [← hr] at hopened hfootnotes hempty hsame
  refine ⟨item, new, hopened.trans ?_, hblock, hnested, hfootnotes.trans ?_, hempty, hsame, hready⟩ <;> rw [← hs]
  · rfl
  · exact hctx.footnotes

end OpeningState

end

namespace BlockState

/-- What reading the line that an item begins on comes to. -/
structure Starts (t : BlockState) (c₀ : LineCursor) (y z : Bytes) (mark : UInt8) (start n offset : Nat) (list item : Frame)
    (inner : List Frame) : Prop where
  inItem : t.InItem mark start n offset list item inner
  sameLine : c₀.SameLine t.cursor
  emptyItem : t.context.emptyItem = false
  ready : y = [] ∨ (∀ f ∈ (item :: inner).getLast?, f.Stocked) ∨ EndsInMarker z ∧ Ready item inner

variable {source m y z : Bytes} {s : BlockState} {mark : UInt8} {start n offset number at_ : Nat} {list item : Frame}
  {inner : List Frame} {ls : List Bytes}

/-- On a marker the list goes on, and its item ends. -/
lemma InItem.matchFrames_ordinal (h : s.InItem mark start n offset list item inner) (hm : IsOrdinal mark m)
    (hmark : mark = byte '.' ∨ mark = byte ')') (hy : Content y z) (last : Bool) :
    let c := LineCursor.front number at_ ((m ++ y) :: ls)
    ∃ ctx, MarkdownTidy.matchFrames source last number s.context c 0 [] (list :: item :: inner) =
      (ctx, .upTo [list] (item :: inner) c) ∧ ctx.atNewItem = true ∧ ctx.footnotes = s.context.footnotes := by
  intro c
  obtain ⟨b, x, hb, hspace, -⟩ := hm.exists_cons
  obtain ⟨k, hread⟩ := hm.read? hmark hy.detached
  have hrest : c.rest = m ++ (y ++ [Bytes.newline]) := by rw [LineCursor.rest_front_cons, List.append_assoc]
  have hpeek : c.peek? = some (m ++ y ++ [Bytes.newline]) := LineCursor.peek?_front_cons
  have hblank : Bytes.isBlank c.rest = false := by simp [hrest, hb, Bytes.isBlank, hspace]
  have hmeasure : (Indent.measure c.rest c.column).1 = 0 := by
    rw [hrest, hb, List.cons_append, measure_cons hspace]
  have hnear : decide (0 < offset) = true := decide_eq_true h.behind
  have hlist : list.block.isContainer = true := by rw [h.marked]; rfl
  have hparagraph : item.block.isParagraph = false := by rw [h.placed]; rfl
  have hbreak : isThematicBreak (c.rest.drop (m.length - 1)) 0 = false := by
    obtain ⟨k, -, rfl⟩ := hm
    have hmark' : mark ≠ byte ' ' ∧ mark ≠ byte '\t' ∧ Bytes.isSpace mark = false ∧
        mark ≠ byte '*' ∧ mark ≠ byte '-' ∧ mark ≠ byte '_' := by
      rcases hmark with rfl | rfl <;> decide
    have hdrop : c.rest.drop ((decimal k ++ [mark]).length - 1) = mark :: (y ++ [Bytes.newline]) := by
      rw [hrest, List.length_append, List.length_singleton, Nat.add_sub_cancel, List.append_assoc, List.drop_left]
      rfl
    rw [hdrop]
    exact isThematicBreak_eq_false (measure_cons hmark'.2.2.1 _ _) List.mem_cons_self hmark'.2.2.1 hmark'.2.2.2
  have houter : ∀ ctx, Continuing.block source last ctx list (item :: inner) c = (ctx, .keep list c true) := by
    intro ctx
    rw [Continuing.block, h.marked]
    dsimp only
    rw [h.lastItem_eq, Continuing.list, hblank, if_neg Bool.false_ne_true]
    dsimp only
    rw [hmeasure, hnear, Bool.true_or, Bool.true_and, if_pos (by decide), hrest, hread]
    dsimp only
    rw [← hrest, hbreak, if_pos (by omega), Bool.false_and, if_neg Bool.false_ne_true, if_neg (by simp)]
  have hinner : ∀ ctx, Continuing.block source last ctx item inner c = ({ ctx with atNewItem := true }, .close item c) := by
    intro ctx
    rw [Continuing.block, h.placed]
    dsimp only
    rw [Continuing.listItem, hblank, if_neg Bool.false_ne_true]
    dsimp only
    rw [hmeasure, hnear, Bool.or_true, Bool.true_and, if_pos (by decide), hrest, hread, Option.isSome_some, if_pos rfl]
  rw [matchFrames_keep hpeek hlist (houter _), List.isEmpty_cons, if_neg Bool.false_ne_true, MarkdownTidy.matchFrames, hpeek]
  dsimp only
  rw [hparagraph, if_neg Bool.false_ne_true, hinner]
  exact ⟨_, rfl, rfl, rfl⟩

/-- A marker ends the item before it and begins one of its own. -/
theorem InItem.exists_starts (h : s.InItem mark start n offset list item inner) (hm : IsOrdinal mark m)
    (hmark : mark = byte '.' ∨ mark = byte ')') (hy : Content y z) (hq : Quiet z)
    (hcursor : s.cursor = .front number at_ ((m ++ y) :: ls)) (hahead : source.drop at_ = Bytes.unlines ((m ++ y) :: ls)) :
    ∃ list' item' inner', (s.readLine Plain.grammar source).Starts (.front number at_ ((m ++ y) :: ls)) y z mark start (n + 1)
      (m.length + 1) list' item' inner' := by
  have hnumber : s.cursor.number = number := by rw [hcursor, LineCursor.number_front]
  rw [readLine, hnumber, hcursor, h.frames]
  obtain ⟨ctx, hmatch, hnew, hnotes⟩ := @InItem.matchFrames_ordinal source m y z s mark start n offset number at_ list item inner ls
    h hm hmark hy (((list :: item :: inner).getLast?.map (·.block.isParagraph)).getD false)
  rw [hmatch]
  dsimp only
  generalize ctx.blankBefore number [list].length = blank
  have hholder : (OpeningState.start ctx (.front number at_ ((m ++ y) :: ls)) [list] (item :: inner)).holder = .list offset := by
    simp only [OpeningState.start, Holder.ofFrames, List.getLast?_singleton, h.marked, h.lastItem_eq]
  have hfuel : 2 * z.length + 3 < 2 * (LineCursor.front number at_ ((m ++ y) :: ls)).rest.length + 2 := by
    obtain ⟨b, x, rfl, -⟩ := hm.exists_cons
    rw [LineCursor.rest_front_cons]
    cases hy <;> simp <;> omega
  obtain ⟨item', new, hopened, hblock, hnested, hfootnotes, hempty, hsame, hsettled, hready⟩ :=
    @OpeningState.exists_run_ordinal mark m y z source number at_ ls
      (OpeningState.start ctx (.front number at_ ((m ++ y) :: ls)) [list] (item :: inner)) blank hm hmark hy hq hahead rfl
      offset hholder (by rw [Bool.or_eq_true]; exact .inr hnew) _ hfuel
  rw [BlockState.openAfter, OpeningState.openBlocks_eq_run]
  dsimp only at hopened ⊢
  generalize OpeningState.run Plain.grammar source blank _ _ = r at hopened hfootnotes hempty hsame hsettled ⊢
  have hopened' : r.opened = item' :: new := hopened
  have hsettled' : r.settled = none := hsettled
  obtain ⟨ctx', node, hclose⟩ : ∃ ctx' node, closeFrames Plain.grammar source r.context (item :: inner) = (ctx', [node]) := by
    simp only [closeFrames, closeFrame, Frame.addChildren, h.placed]
    exact ⟨_, _, rfl⟩
  have hsteady : Steady r.context ctx' := by
    have hsteady := @Steady.closeFrames Plain.grammar source (item :: inner) (.inside (by rw [h.placed]; rfl) h.nested) r.context
    rwa [hclose] at hsteady
  rw [hopened', List.isEmpty_cons, Bool.false_and, if_neg Bool.false_ne_true]
  dsimp only
  rw [hsettled']
  dsimp only
  rw [hclose]
  refine ⟨list.addChildren [node], item', new, ⟨h.closed, ?_, rfl, h.marked, h.lines, ?_, hblock, Nat.succ_pos _, hnested⟩,
    hsame, ?_, hready⟩
  · exact hsteady.footnotes.trans (hfootnotes.trans (hnotes.trans h.footnotes))
  · rw [Frame.addChildren, List.length_append, h.items, List.length_singleton]
  · rw [Bool.eq_false_iff]
    intro htrue
    rw [hsteady.emptyItem htrue] at hempty
    cases hempty

end BlockState

end MarkdownTidy
