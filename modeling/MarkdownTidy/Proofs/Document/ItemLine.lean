import Mathlib.Data.Nat.Digits.Lemmas
import MarkdownTidy.Proofs.Document.QuotedLines
import MarkdownTidy.Proofs.Writer.FirstBlock

/-! A single line behind the marker of a list item. -/

namespace MarkdownTidy

def IsMarker (m : Bytes) : Prop :=
  m ∈ ["-", "*", "+"].map utf8 ∨ ∃ n d, n < 10 ^ 9 ∧ (d = byte '.' ∨ d = byte ')') ∧ m = decimal n ++ [d]

lemma IsMarker.newline_notMem {m : Bytes} (hm : IsMarker m) : Bytes.newline ∉ m := by
  rcases hm with hm | ⟨n, d, -, hd, rfl⟩
  · have hbullets : ∀ m ∈ ["-", "*", "+"].map utf8, Bytes.newline ∉ m := by decide
    exact hbullets m hm
  · rw [List.mem_append, List.mem_singleton]
    rintro (hdigit | rfl)
    · cases (Writer.decimal_digits n).1 _ hdigit
    · rcases hd with hd | hd <;> cases hd

def Detached (x : Bytes) : Prop := ∀ b ∈ x.head?, b = byte ' ' ∨ b = Bytes.newline

lemma detached_space (x : Bytes) : Detached (byte ' ' :: x) := by
  rintro _ ⟨⟩
  exact .inl rfl

namespace ListMarker

variable {x : Bytes}

lemma finish_detached {ordered : Bool} {indent width number : Nat} {mark : UInt8} (hx : Detached x) :
    finish ordered indent width number mark x = some ⟨ordered, indent, indent + width, number, mark, x⟩ := by
  cases x with
  | nil => rfl
  | cons b x =>
    rcases hx b rfl with rfl | rfl
    · have hwide : ((Indent.measure (byte ' ' :: x) 0).1 == 0) = false := by
        rw [beq_eq_false_iff_ne, ne_eq, Plain.measure_fst_eq_zero_iff]
        exact fun h => h.1 rfl
      have hline : (byte ' ' == Bytes.newline) = false := rfl
      simp only [finish, hwide, hline, Bool.false_eq_true, if_false]
    · rfl

lemma read?_bullet {b : UInt8} (hb : isBullet b = true) (hx : Detached x) :
    read? (b :: x) = some ⟨false, 0, 1, 0, b, x⟩ := by
  have hs : (b == byte ' ') = false := by
    rw [beq_eq_false_iff_ne]
    rintro rfl
    cases hb
  simp [read?, hs, hb, finish_detached hx]

lemma read?_decimal {n : Nat} {d : UInt8} (hn : n < 10 ^ 9) (hd : d = byte '.' ∨ d = byte ')') (hx : Detached x) :
    read? (decimal n ++ d :: x) = some ⟨true, 0, (decimal n).length + 1, n, d, x⟩ := by
  obtain ⟨hdigits, hlen⟩ := Writer.decimal_digits n
  obtain ⟨c, ds, hc, hdigit⟩ := Writer.exists_decimal n
  have hnumber := Writer.toNat_decimal n
  have hlong : (decimal n).length ≤ 9 := hlen.trans_le (Nat.toDigits_length 10 n 9 (by decide) hn)
  have hend : Bytes.isDigit d = false := by rcases hd with rfl | rfl <;> rfl
  have hdelim : (d == byte '.' || d == byte ')') = true := by rcases hd with rfl | rfl <;> rfl
  have hs : (c == byte ' ') = false := by
    rw [beq_eq_false_iff_ne]
    rintro rfl
    cases hdigit
  have hb : isBullet c = false := by
    by_contra hbullet
    simp only [isBullet, Bool.not_eq_false, Bool.or_eq_true, beq_iff_eq] at hbullet
    rcases hbullet with (rfl | rfl) | rfl <;> cases hdigit
  have htake : (decimal n ++ d :: x).takeWhile Bytes.isDigit = decimal n := by
    rw [List.takeWhile_append_of_pos hdigits, List.takeWhile_cons_of_neg (by simp [hend]), List.append_nil]
  rw [hc] at htake hlong hnumber ⊢
  rw [List.cons_append] at htake ⊢
  have hdrop : (c :: (ds ++ d :: x)).drop (c :: ds).length = d :: x := by
    rw [← List.cons_append, List.drop_left]
  have hspaces : (c :: (ds ++ d :: x)).takeWhile (· == byte ' ') = [] :=
    List.takeWhile_cons_of_neg (by simp [hs])
  have hshort : ((c :: ds).isEmpty || decide ((c :: ds).length > 9)) = false := by
    simp only [List.isEmpty_cons, Bool.false_or, decide_eq_false_iff_not]
    omega
  have hmargin : ¬ 0 > 3 := by decide
  simp only [read?, hspaces, List.length_nil, List.drop_zero, if_neg hmargin, hb, htake, hshort, hdrop, hdelim, hnumber,
    Bool.false_eq_true, if_false, if_true, finish_detached hx, Nat.zero_add]

lemma read?_marker {m : Bytes} (hm : IsMarker m) (hx : Detached x) :
    ∃ ordered number mark, m.getLast? = some mark ∧ read? (m ++ x) = some ⟨ordered, 0, m.length, number, mark, x⟩ := by
  rcases hm with hm | ⟨n, d, hn, hd, rfl⟩
  · have hbullet : ∃ b, ListMarker.isBullet b = true ∧ m = [b] := by
      simp only [List.map_cons, List.map_nil, List.mem_cons, List.not_mem_nil, or_false] at hm
      rcases hm with rfl | rfl | rfl
      · exact ⟨byte '-', rfl, rfl⟩
      · exact ⟨byte '*', rfl, rfl⟩
      · exact ⟨byte '+', rfl, rfl⟩
    obtain ⟨b, hb, rfl⟩ := hbullet
    exact ⟨false, 0, b, rfl, read?_bullet hb hx⟩
  · refine ⟨true, n, d, by simp, ?_⟩
    rw [List.append_assoc, List.singleton_append, read?_decimal hn hd hx, List.length_append, List.length_singleton]

end ListMarker

/-! ### Rules on the line of an item -/

lemma triggered_digit {c : UInt8} (hdigit : Bytes.isDigit c = true) :
    Bytes.isSpace c = false ∧ ∀ y, Plain.triggered (c :: y) = [.list, .listItem] := by
  have hcs : c ∈ [48, 49, 50, 51, 52, 53, 54, 55, 56, 57] := by
    simp only [Bytes.isDigit, Bool.and_eq_true, decide_eq_true_eq, UInt8.le_iff_toNat_le] at hdigit
    simp only [List.mem_cons, List.not_mem_nil, or_false, ← UInt8.toNat_inj, UInt8.reduceToNat] at hdigit ⊢
    omega
  simp only [List.mem_cons, List.not_mem_nil, or_false] at hcs
  rcases hcs with rfl | rfl | rfl | rfl | rfl | rfl | rfl | rfl | rfl | rfl <;> exact ⟨rfl, fun _ => rfl⟩

lemma IsMarker.exists_cons {m : Bytes} (hm : IsMarker m) :
    ∃ b x, m = b :: x ∧ Bytes.isSpace b = false ∧ ∀ y, ∃ front, Plain.triggered (b :: y) = front ++ [.list, .listItem] ∧
      ∀ r ∈ front, r = .setextHeading ∨ r = .thematicBreak := by
  rcases hm with hm | ⟨n, d, -, -, rfl⟩
  · simp only [List.map_cons, List.map_nil, List.mem_cons, List.not_mem_nil, or_false] at hm
    rcases hm with rfl | rfl | rfl
    · exact ⟨byte '-', [], rfl, rfl, fun y => ⟨[.setextHeading, .thematicBreak], rfl, by simp⟩⟩
    · exact ⟨byte '*', [], rfl, rfl, fun y => ⟨[.thematicBreak], rfl, by simp⟩⟩
    · exact ⟨byte '+', [], rfl, rfl, fun y => ⟨[], rfl, by simp⟩⟩
  · obtain ⟨c, ds, hc, hdigit⟩ := Writer.exists_decimal n
    obtain ⟨hspace, htriggered⟩ := triggered_digit hdigit
    exact ⟨c, ds ++ [d], by rw [hc, List.cons_append], hspace, fun y => ⟨[], htriggered _, by simp⟩⟩

lemma isThematicBreak_eq_false {line : Bytes} {column : Nat} {b : UInt8} (hline : Indent.measure line column = (0, 0))
    (hmem : b ∈ line) (hspace : Bytes.isSpace b = false) (hb : b ≠ byte '*' ∧ b ≠ byte '-' ∧ b ≠ byte '_') :
    isThematicBreak line column = false := by
  have hmark : b ∈ line.filter (!Bytes.isSpace ·) := List.mem_filter.mpr ⟨hmem, by simp [hspace]⟩
  simp only [isThematicBreak, hline, List.drop_zero]
  cases hmarks : line.filter (!Bytes.isSpace ·) with
  | nil => simp
  | cons c rest =>
    rw [hmarks] at hmark
    by_contra hbreak
    simp only [Bool.not_eq_false, Bool.and_eq_true, Bool.or_eq_true, beq_iff_eq, List.all_eq_true] at hbreak
    have hsame : b = c := by
      rcases List.mem_cons.mp hmark with rfl | hrest
      · rfl
      · exact hbreak.2.1.2 b hrest
    subst hsame
    rcases hbreak.2.1.1 with (h | h) | h
    · exact hb.1 h
    · exact hb.2.1 h
    · exact hb.2.2 h

lemma firstOf_silent_front {source : Bytes} {place : Place} {c : LineCursor} {ctx : BlockContext} {front : List BlockRule}
    (hfront : ∀ r ∈ front, r = .setextHeading ∨ r = .thematicBreak) (hplace : place.lastIsParagraph = false)
    (hbreak : isThematicBreak c.rest c.column = false) (rs : List BlockRule) :
    Opening.firstOf source place c ctx (front ++ rs) = Opening.firstOf source place c ctx rs := by
  induction front with
  | nil => rfl
  | cons r front ih =>
    rw [List.forall_mem_cons] at hfront
    rw [List.cons_append, Opening.firstOf, ← ih hfront.2]
    rcases hfront.1 with rfl | rfl
    · simp [Opening.try_, Opening.setextHeading, hplace]
    · simp [Opening.try_, Opening.thematicBreak, hbreak]

/-! ### What the line opens -/

section

variable {source m l : Bytes} {number start : Nat} {ls : List Bytes} {ctx : BlockContext} {blank : Bool}

def itemLine (m l : Bytes) : Bytes := m ++ [byte ' '] ++ l

def LineCursor.behindMarker (number start : Nat) (m l : Bytes) (ls : List Bytes) : LineCursor :=
  .within number start (itemLine m l) ls (m ++ [byte ' ']).length

lemma list_itemLine (hm : IsMarker m) {place : Place} (hplace : place.lastIsParagraph = false) :
    ∃ mark first, Opening.list place (.front number start (itemLine m l :: ls)) =
      some { block := .list mark first, cursor := .front number start (itemLine m l :: ls), descend := true } := by
  obtain ⟨ordered, first, mark, -, hread⟩ := ListMarker.read?_marker hm (detached_space (l ++ [Bytes.newline]))
  have hline : itemLine m l ++ [Bytes.newline] = m ++ byte ' ' :: (l ++ [Bytes.newline]) := by simp [itemLine]
  refine ⟨mark, first, ?_⟩
  rw [Opening.list, LineCursor.rest_front_cons, hline, hread]
  simp [hplace]

lemma listItem_itemLine (hm : IsMarker m) (hl : Flush l) {place : Place} {offset : Nat}
    (hplace : place.holder = .list offset) :
    Opening.listItem place (.front number start (itemLine m l :: ls)) =
      some { block := .listItem (m.length + 1), cursor := .behindMarker number start m l ls, descend := true } := by
  obtain ⟨ordered, first, mark, -, hread⟩ := ListMarker.read?_marker hm (detached_space (l ++ [Bytes.newline]))
  have hline : itemLine m l ++ [Bytes.newline] = m ++ byte ' ' :: (l ++ [Bytes.newline]) := by simp [itemLine]
  obtain ⟨b, x, rfl, hb⟩ := hl.exists_cons
  have hs : b ≠ byte ' ' := by rintro rfl; cases hb
  have ht : b ≠ byte '\t' := by rintro rfl; cases hb
  have hblank : Bytes.isBlank (byte ' ' :: (b :: x ++ [Bytes.newline])) = false := by simp [Bytes.isBlank, hb]
  have hmeasure : Indent.measure (byte ' ' :: (b :: x ++ [Bytes.newline])) m.length = (1, 1) := by
    simp [Indent.measure, Indent.measure.go, hs, ht]
  have htake : Indent.take? (byte ' ' :: (b :: x ++ [Bytes.newline])) m.length 0 1 = some (1, 0) := by
    simp [Indent.take?, Indent.take?.go, Indent.take?.finish, show byte ' ' ≠ byte '\t' by decide]
  have hnear : ¬ 0 > offset + 3 := by omega
  have hone : ¬ 1 > 4 := by decide
  have hcursor : (LineCursor.front number start (itemLine m (b :: x) :: ls)).advancePadded (m.length + 1) 0 =
      .behindMarker number start m (b :: x) ls := by
    rw [LineCursor.front_eq_within, LineCursor.advancePadded_within (by simp [itemLine])]
    simp [LineCursor.behindMarker]
  rw [Opening.listItem, LineCursor.rest_front_cons, hline, hread, hplace]
  simp only [ListMarker.gap, ListMarker.isEmpty, hblank, hmeasure, if_neg hnear, if_neg hone, Bool.false_eq_true,
    if_false, htake, Option.getD_some, hcursor]

/-- A line behind a marker opens a list, an item and a paragraph. -/
lemma run_itemLine (hm : IsMarker m) (hl : Flush l) (hn : Bytes.newline ∉ l)
    (ht : Plain.triggered (l ++ [Bytes.newline]) = []) (hctx : Calm ctx)
    (hs : source.drop start = Bytes.unlines (itemLine m l :: ls)) (fuel : Nat) :
    let c := LineCursor.behindMarker number start m l ls
    ∃ ctx' mark first, Calm ctx' ∧
      (OpeningState.start ctx (.front number start (itemLine m l :: ls)) [] []).run Plain.grammar source blank
        (fuel + 3) =
        { context := ctx', cursor := c.toLastByte, holder := .other, last := none, lastIsInHolder := false,
          continuable := false,
          opened := [⟨.list mark first, blank, [], []⟩, ⟨.listItem (m.length + 1), blank, [], []⟩,
            ⟨.paragraph, blank, [c.span], []⟩] } := by
  intro c
  obtain ⟨b, x, hb, hspace, htriggered⟩ := hm.exists_cons
  have hline : itemLine m l ++ [Bytes.newline] = b :: (x ++ byte ' ' :: (l ++ [Bytes.newline])) := by
    simp [itemLine, hb]
  obtain ⟨front, hrules, hfront⟩ := htriggered (x ++ byte ' ' :: (l ++ [Bytes.newline]))
  have hbreak : ∀ column, isThematicBreak (itemLine m l ++ [Bytes.newline]) column = false := by
    intro column
    obtain ⟨b', y, rfl, hb'⟩ := hl.exists_cons
    refine isThematicBreak_eq_false (b := b') (by rw [hline, measure_cons hspace]) (by simp [itemLine]) hb' ?_
    refine ⟨?_, ?_, ?_⟩ <;> rintro rfl <;> cases ht
  have hhead : (itemLine m l ++ [Bytes.newline]).head? ≠ some Bytes.newline := by
    rw [hline]
    rintro ⟨⟩
    cases hspace
  -- The same rules are tried before and after the list is opened; an open list has the second of them apply.
  have hall : ∀ s : OpeningState, s.continuable = false → s.rules Plain.grammar (itemLine m l ++ [Bytes.newline]) =
      front ++ [.list, .listItem, .codeBlock, .paragraph] := by
    intro s hs
    rw [hline, OpeningState.rules_cons (by rw [hs, Bool.false_and]) hspace, hrules, List.append_assoc]
    rfl
  obtain ⟨mark, first, hlist⟩ := @list_itemLine m l number start ls hm ⟨.document, false, false, false⟩ rfl
  have houter : Opening.firstOf source ⟨.document, false, false, false⟩ (.front number start (itemLine m l :: ls)) ctx
      (front ++ [.list, .listItem, .codeBlock, .paragraph]) = ({ ctx with emptyItem := false }, some
        { block := .list mark first, cursor := .front number start (itemLine m l :: ls), descend := true }) := by
    rw [firstOf_silent_front hfront rfl (by rw [LineCursor.rest_front_cons, hbreak])]
    simp only [Opening.firstOf, Opening.try_, hctx.atNewItem, Bool.or_self, Bool.false_eq_true, if_false, hlist]
  have hinner : Opening.firstOf source ⟨.list 0, true, false, false⟩ (.front number start (itemLine m l :: ls))
      { ctx with emptyItem := false } (front ++ [.list, .listItem, .codeBlock, .paragraph]) =
        ({ ctx with emptyItem := false, atNewItem := false }, some
          { block := .listItem (m.length + 1), cursor := c, descend := true }) := by
    have hitem := @listItem_itemLine m l number start ls hm hl ⟨.list 0, true, false, false⟩ _ rfl
    rw [firstOf_silent_front hfront rfl (by rw [LineCursor.rest_front_cons, hbreak])]
    simp only [Opening.firstOf, Opening.try_, Bool.true_or, if_true, hitem]
    rfl
  have hsees : c.Sees source l := LineCursor.sees_within number hl hs
  refine ⟨{ ctx with emptyItem := false, atNewItem := false }, mark, first, ⟨rfl, hctx.footnotes⟩, ?_⟩
  rw [← hall (OpeningState.start ctx (.front number start (itemLine m l :: ls)) [] []) rfl] at houter
  rw [OpeningState.run_opens LineCursor.peek?_front_cons hhead rfl houter, if_pos rfl]
  rw [OpeningState.run_opens LineCursor.peek?_front_cons hhead rfl (by rw [hall _ rfl]; exact hinner), if_pos rfl]
  exact OpeningState.run_text hsees hl hn ht rfl rfl fuel

lemma marked_itemLine (hm : IsMarker m) (hl : Flush l) (h : source = Bytes.unlines [itemLine m l]) :
    Marked source (LineCursor.behindMarker 0 0 m l []).span l := by
  have hcovers : (LineCursor.behindMarker 0 0 m l []).span.Covers source (l ++ [Bytes.newline]) :=
    (LineCursor.sees_within (a := m ++ [byte ' ']) 0 hl (by rw [h]; rfl)).covers
  have hend : ∃ b x, m = x ++ [b] ∧ Bytes.isSpace b = false := by
    rcases hm with hm | ⟨n, d, -, hd, rfl⟩
    · simp only [List.map_cons, List.map_nil, List.mem_cons, List.not_mem_nil, or_false] at hm
      rcases hm with rfl | rfl | rfl
      · exact ⟨byte '-', [], rfl, rfl⟩
      · exact ⟨byte '*', [], rfl, rfl⟩
      · exact ⟨byte '+', [], rfl, rfl⟩
    · exact ⟨d, decimal n, rfl, by rcases hd with rfl | rfl <;> rfl⟩
  obtain ⟨b, x, rfl, hb⟩ := hend
  refine ⟨hcovers, indentation_eq_nil (b := b) (x := x.reverse) ?_ hb⟩
  have hstart : (LineCursor.behindMarker 0 0 (x ++ [b]) l []).span.start = (x ++ [b] ++ [byte ' ']).length := by
    simp [LineCursor.behindMarker, LineCursor.within, LineCursor.front, LineCursor.span]
  have hsource : source = x ++ [b] ++ [byte ' '] ++ (l ++ [Bytes.newline]) := by
    rw [h, itemLine]
    simp
  dsimp only
  rw [hstart, hsource, List.take_left]
  simp

lemma closeFrames_item {b : UInt8} {x : Bytes} {spans : List Span} (h : List.Forall₂ (Marked source) spans [b :: x])
    (hb : Bytes.isSpace b = false) (hne : b ≠ byte '[') (ctx : BlockContext) (mark : UInt8) (first offset : Nat) :
    closeFrames Plain.grammar source ctx
        [⟨.list mark first, blank, [], []⟩, ⟨.listItem offset, blank, [], []⟩, ⟨.paragraph, blank, spans, []⟩] =
      (ctx, [.nest [{ kind := .list mark first true, blankBefore := blank },
          { kind := .listItem offset, blankBefore := blank }]
        (.mk { kind := .textBlock, lines := trimLines source spans } [])]) := by
  have htable : Table.find? source spans = none := by
    cases h with
    | cons hs h =>
      cases h
      rfl
  have hinner : closeFrames Plain.grammar source ctx [⟨.paragraph, blank, spans, []⟩] =
      closeFrame Plain.grammar source ctx ⟨.paragraph, blank, spans, []⟩ := rfl
  rw [closeFrames, closeFrames, hinner, closeFrame_text (h.imp fun _ _ hs => hs.covers) hb hne htable]
  rfl

lemma BlockState.readLines_end {g : Grammar} {s : BlockState} (hf : s.frames.isEmpty = false)
    (hc : s.cursor.peek? = none) (fuel : Nat) : s.readLines g source (fuel + 1) = s.finish g source := by
  rw [readLines, hf, if_neg Bool.false_ne_true, hc]

open BlockState in
/-- A line behind a marker is the only text of a list of one item. -/
theorem readBlocks_item (hm : IsMarker m) (hn : Bytes.newline ∉ m ++ l) (hl : Flush l)
    (ht : Plain.triggered (l ++ [Bytes.newline]) = []) (hlast : ∀ b ∈ l.getLast?, Bytes.isSpace b = false)
    (names : MarkdownAttributes) :
    let source := Bytes.unlines [itemLine m l]
    ∃ mark first blank spans ctx, MarkedText source spans [l] ∧ ctx.footnotes = [] ∧
      readBlocks Plain.grammar names source =
        ([.nest [{ kind := .list mark first true, blankBefore := blank },
            { kind := .listItem (m.length + 1), blankBefore := blank }]
          (.mk { kind := .textBlock, lines := spans } [])], ctx) := by
  intro source
  have hline : ∀ k ∈ [itemLine m l], Bytes.newline ∉ k := by
    simp only [List.mem_append, not_or] at hn
    have hspace : Bytes.newline ≠ byte ' ' := by decide
    simp [itemLine, hn, hspace]
  have hblank : Bytes.isBlank (itemLine m l) = false := by
    obtain ⟨b, x, rfl, hb, -⟩ := hm.exists_cons
    simp [itemLine, Bytes.isBlank, hb]
  have hlen : (Bytes.lines source).length = 1 := by
    rw [Bytes.lines_unlines hline, List.length_map, List.length_singleton]
  obtain ⟨blank, hread⟩ := @readLines_first source 0 0 (itemLine m l) []
    { context := { names := names }, cursor := .front 0 0 [itemLine m l] } rfl rfl hblank 1
  have hmarked := @marked_itemLine source m l hm hl rfl
  obtain ⟨ctx, mark, first, hcalm, hopen⟩ := @run_itemLine source m l 0 0 [] { names := names } blank hm hl
    (fun h => hn (List.mem_append_right _ h)) ht ⟨rfl, rfl⟩ rfl (2 * (itemLine m l).length + 1)
  have hfuel : 2 * (LineCursor.front 0 0 [itemLine m l]).rest.length + 2 = 2 * (itemLine m l).length + 1 + 3 := by
    rw [LineCursor.rest_front_cons, List.length_append, List.length_singleton]
    omega
  have hnext : (LineCursor.behindMarker 0 0 m l []).toLastByte.nextLine.peek? = none := by
    rw [LineCursor.behindMarker, itemLine,
      LineCursor.nextLine_of_sameLine LineCursor.sameLine_toLastByte_within, LineCursor.peek?_front_nil]
  obtain ⟨b, x, rfl, hb⟩ := hl.exists_cons
  have hbracket : b ≠ byte '[' := by rintro rfl; cases ht
  have hforall : List.Forall₂ (Marked source) [(LineCursor.behindMarker 0 0 m (b :: x) []).span] [b :: x] :=
    .cons hmarked .nil
  rw [openAfter_nil] at hread
  dsimp only at hread hopen
  rw [hfuel, hopen] at hread
  dsimp only at hread
  rw [List.isEmpty_cons, if_neg Bool.false_ne_true] at hread
  replace hread := hread.trans (readLines_end rfl hnext 0)
  rw [finish, closeFrames_item hforall hb hbracket] at hread
  refine ⟨mark, first, blank, _, ctx, markedText_trimLines hforall (by simpa using hl) (List.cons_ne_nil _ _)
    (by simpa using hlast), hcalm.footnotes, ?_⟩
  rw [readBlocks, hlen, LineCursor.ofSource_unlines hline]
  rw [hread]
  rfl

end

end MarkdownTidy
