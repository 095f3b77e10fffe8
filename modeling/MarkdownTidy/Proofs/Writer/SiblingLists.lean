import MarkdownTidy.Proofs.Document.ItemLine
import MarkdownTidy.Proofs.Writer.Paragraph

/-! The marker that a list is written with, which is the marker the written text begins with. -/

namespace MarkdownTidy

def isDelimiterMark (b : UInt8) : Bool := b == byte '.' || b == byte ')'

lemma Node.isBulletList_of_kind {n : Node} {mark : UInt8} {start : Nat} {tight : Bool} (h : n.kind = .list mark start tight) :
    n.isBulletList = !isDelimiterMark mark := by
  rw [isBulletList, h, isDelimiterMark, Bool.not_or]
  rfl

lemma detached_of_head {x : Bytes} (hx : ∀ c ∈ x.head?, c = Bytes.newline) : Detached x := fun c hc => .inr (hx c hc)

lemma Detached.append {x y : Bytes} (hx : Detached x) (hy : ∀ c ∈ y.head?, c = Bytes.newline) : Detached (x ++ y) := by
  cases x with
  | nil => exact detached_of_head hy
  | cons b x => exact hx

lemma Detached.firstLine {x : Bytes} (hx : Detached x) : Detached (Bytes.firstLine x) := by
  obtain ⟨t, ht⟩ := Bytes.firstLine_prefix x
  intro b hb
  refine hx b ?_
  rw [← ht, List.head?_append, hb]
  rfl

lemma IsMarker.last_ne_padding {m : Bytes} (hm : IsMarker m) : ∀ b ∈ m.getLast?, b ≠ byte ' ' ∧ b ≠ byte '\t' := by
  rcases hm with hm | ⟨n, d, -, hd, rfl⟩
  · have hbullets : ∀ m ∈ ["-", "*", "+"].map utf8, ∀ b ∈ m.getLast?, b ≠ byte ' ' ∧ b ≠ byte '\t' := by
      decide +kernel
    exact hbullets m hm
  · rw [List.getLast?_append_of_ne_nil _ (List.cons_ne_nil _ _)]
    rintro b ⟨⟩
    rcases hd with rfl | rfl <;> decide

namespace Writer

open Bytes

variable {env : Environment} {style : Style} {before : List Node} {mark : UInt8} {start : Nat} {tight : Bool}
  {ws : List Written} {marker s : Bytes}

def bulletRun (before : List Node) : Nat := (before.takeWhile Node.isBulletList).length

lemma bullet_eq (style : Style) (before : List Node) :
    bullet style before = if bulletRun before % 2 == 1 then style.alternateBullet else style.bullet := rfl

lemma exists_bullets (h : style.problem? = none) :
    ∃ b c, style.bullet = [b] ∧ style.alternateBullet = [c] ∧ b ≠ c ∧ ListMarker.isBullet b = true ∧
      ListMarker.isBullet c = true := by
  have hm := (mem_of_problem?_eq_none h).1
  simp only [List.map_cons, List.map_nil, List.mem_cons, List.not_mem_nil, or_false] at hm
  rw [Style.alternateBullet]
  rcases hm with hm | hm | hm <;> rw [hm]
  · exact ⟨byte '-', byte '*', rfl, rfl, by decide, rfl, rfl⟩
  · exact ⟨byte '*', byte '-', rfl, rfl, by decide, rfl, rfl⟩
  · exact ⟨byte '+', byte '*', rfl, rfl, by decide, rfl, rfl⟩

def itemMarker (style : Style) (before : List Node) (mark : UInt8) (start i : Nat) : Bytes :=
  if isDelimiterMark mark then decimal (if style.incrementOrdered then start + i else start) ++ [mark]
  else bullet style before

lemma list_eq (parent : Kind) (next : Option Node) :
    list env ⟨parent, before, next⟩ mark start tight ws =
      (items (itemMarker env.style before mark start) 0 ws).map (join (if tight then utf8 "\n" else utf8 "\n\n")) := by
  rw [list]
  exact bind_pure_comp _ _

lemma isMarker_itemMarker {i : Nat} (h : style.problem? = none) (before : List Node) (mark : UInt8)
    (hstart : start + i < 10 ^ 9) : IsMarker (itemMarker style before mark start i) := by
  rw [itemMarker]
  split
  · rename_i hmark
    refine .inr ⟨_, mark, ?_, by simpa [isDelimiterMark] using hmark, rfl⟩
    split <;> omega
  · refine .inl ?_
    rw [bullet_eq]
    split
    · rw [Style.alternateBullet]
      split <;> decide
    · exact (mem_of_problem?_eq_none h).1

/-! ### The front of the written text -/

lemma exists_listItem (hm : IsMarker marker) (s : Bytes) : ∃ x, listItem marker s = marker ++ x ∧ Detached x := by
  rw [listItem]
  split
  · exact ⟨[], by simp, by simp [Detached]⟩
  · obtain ⟨l, ls, hsplit⟩ := List.exists_cons_of_ne_nil (split_ne_nil s)
    obtain ⟨t, ht, hn⟩ := exists_join_cons [newline] rfl (prefixLine (marker ++ utf8 " ") l)
      (ls.map (prefixLine (spaces (marker.length + 1))))
    have hline : ∃ x, prefixLine (marker ++ utf8 " ") l = marker ++ x ∧ Detached x := by
      rw [prefixLine]
      split
      · refine ⟨[], ?_, by simp [Detached]⟩
        rw [trimRight_append_of_all (by decide +kernel), List.append_nil]
        refine trimRight_eq_self fun b hb => ?_
        have hpadding := hm.last_ne_padding b hb
        exact Bool.or_eq_false_iff.mpr ⟨beq_eq_false_iff_ne.mpr hpadding.1, beq_eq_false_iff_ne.mpr hpadding.2⟩
      · exact ⟨byte ' ' :: l, by rw [List.append_assoc]; rfl, detached_space l⟩
    obtain ⟨x, hx, hdetached⟩ := hline
    refine ⟨x ++ t, ?_, hdetached.append hn⟩
    rw [prefixLines, hsplit]
    exact ht.trans (by rw [hx, List.append_assoc])

lemma exists_list (h : style.problem? = none) (hstart : start < 10 ^ 9) {w : Written} {parent : Kind} {next : Option Node}
    (henv : env.style = style) (hs : list env ⟨parent, before, next⟩ mark start tight (w :: ws) = .ok s) :
    ∃ x, s = itemMarker style before mark start 0 ++ x ∧ Detached x := by
  subst henv
  rw [list_eq] at hs
  cases hi : items (itemMarker env.style before mark start) 0 (w :: ws) with
  | error e => rw [hi] at hs; cases hs
  | ok l =>
    rw [hi] at hs
    obtain rfl := Except.ok.inj hs
    obtain ⟨t, ts, rfl⟩ := items_cons hi
    have hsep : (if tight then utf8 "\n" else utf8 "\n\n").head? = some newline := by cases tight <;> decide
    obtain ⟨y, hy, hn⟩ := exists_join_cons _ hsep (listItem (itemMarker env.style before mark start 0) t) ts
    obtain ⟨x, hx, hdetached⟩ := exists_listItem (isMarker_itemMarker (i := 0) h before mark hstart) t
    exact ⟨x ++ y, by rw [hy, hx, List.append_assoc], hdetached.append hn⟩

/-! ### The mark of a list -/

def writtenMark (style : Style) (before : List Node) (mark : UInt8) : UInt8 :=
  if isDelimiterMark mark then mark else (bullet style before).headD 0

lemma getLast?_itemMarker (h : style.problem? = none) (i : Nat) :
    (itemMarker style before mark start i).getLast? = some (writtenMark style before mark) := by
  obtain ⟨b, c, hb, hc, -⟩ := exists_bullets h
  rw [itemMarker, writtenMark]
  split
  · rw [List.getLast?_append_of_ne_nil _ (List.cons_ne_nil _ _)]
    rfl
  · rw [bullet_eq, hb, hc]
    split <;> rfl

lemma writtenMark_eq_iff (h : style.problem? = none) (before' : List Node) (mark' : UInt8) :
    writtenMark style before mark = writtenMark style before' mark' ↔
      isDelimiterMark mark = true ∧ mark = mark' ∨ isDelimiterMark mark = false ∧ isDelimiterMark mark' = false ∧
        bulletRun before % 2 = bulletRun before' % 2 := by
  obtain ⟨b, c, hb, hc, hne, hbullet, hbullet'⟩ := exists_bullets h
  have hmark : ∀ {d : UInt8}, isDelimiterMark d = true → ListMarker.isBullet d = false := by
    intro d hd
    simp only [isDelimiterMark, Bool.or_eq_true, beq_iff_eq] at hd
    rcases hd with rfl | rfl <;> rfl
  have hwritten : ∀ before, (bullet style before).headD 0 = if bulletRun before % 2 == 1 then c else b := by
    intro before
    rw [bullet_eq, hb, hc]
    split <;> rfl
  have hsome : ∀ before, ListMarker.isBullet (if bulletRun before % 2 == 1 then c else b) = true := by
    intro before
    split <;> assumption
  simp only [writtenMark, hwritten]
  cases hd : isDelimiterMark mark <;> cases hd' : isDelimiterMark mark'
  · have hlt := Nat.mod_lt (bulletRun before) (show 2 > 0 by decide)
    have hlt' := Nat.mod_lt (bulletRun before') (show 2 > 0 by decide)
    simp only [Bool.false_eq_true, if_false, false_and, true_and, false_or, beq_iff_eq]
    split <;> split <;> simp only [hne, hne.symm, true_iff, false_iff] <;> omega
  · have hdelimiter := hmark hd'
    simp only [Bool.false_eq_true, if_false, if_true, false_and, false_or, and_false, iff_false, Bool.true_eq_false]
    intro he
    rw [← he, hsome] at hdelimiter
    cases hdelimiter
  · have hdelimiter := hmark hd
    simp only [Bool.false_eq_true, Bool.true_eq_false, if_false, if_true, false_and, or_false, true_and]
    refine iff_of_false (fun he => ?_) fun he => ?_
    · rw [he, hsome] at hdelimiter
      cases hdelimiter
    · rw [he, hd'] at hd
      cases hd
  · simp

lemma read?_list {x : Bytes} (h : style.problem? = none) (before : List Node) (mark : UInt8) (hstart : start < 10 ^ 9)
    (hx : Detached x) :
    ∃ m, ListMarker.read? (itemMarker style before mark start 0 ++ x) = some m ∧ m.mark = writtenMark style before mark := by
  obtain ⟨ordered, number, d, hlast, hread⟩ :=
    ListMarker.read?_marker (isMarker_itemMarker (i := 0) h before mark hstart) hx
  rw [getLast?_itemMarker h] at hlast
  exact ⟨_, hread, (Option.some.inj hlast).symm⟩

lemma close_of_mark {m x : Bytes} (hm : IsMarker m) (hx : Detached x) {c : LineCursor} (hc : c.rest = m ++ x) {d : UInt8}
    (hd : m.getLast? ≠ some d) {offset : Nat} (hoffset : 0 < offset) (last : Bool) (ctx : BlockContext) (f : Frame)
    (isEmpty : Bool) : Continuing.list last ctx f d offset isEmpty c = (ctx, .close f c) := by
  obtain ⟨ordered, number, e, hlast, hread⟩ := ListMarker.read?_marker hm hx
  have hne : (e != d) = true := by
    rw [bne_iff_ne]
    rintro rfl
    exact hd hlast
  obtain ⟨b, y, rfl, hb, -⟩ := hm.exists_cons
  have hblank : Bytes.isBlank (b :: y ++ x) = false := by simp [Bytes.isBlank, hb]
  have hmeasure : Indent.measure (b :: y ++ x) c.column = (0, 0) := measure_cons hb _ _
  have hnear : ((decide (0 < offset) || isEmpty) && decide (0 < 4)) = true := by simp [hoffset]
  have hindent : 0 < offset + 4 := by omega
  simp only [Continuing.list, hc, hblank, hmeasure, hread, hnear, hne, if_true, Bool.false_eq_true, if_false, hindent]

end Writer

end MarkdownTidy
