import MarkdownTidy.Proofs.Document.ItemLine
import MarkdownTidy.Proofs.Shortcode.PrintedLines
import MarkdownTidy.Proofs.Writer.Paragraph

/-! A container with a single shortcode in it is written as the lines of the shortcode, each behind what the
container puts in front of it. -/

namespace MarkdownTidy.Writer

variable {env : Environment} {at_ : Setting} {text : Info} {s : Node} {sc : Shortcode}

/-! ### One part in a block -/

lemma joinBlocks_singleton {w : Written} {t : Bytes} (hw : w.own = .ok t) (ht : trimNewlines t = t) (hne : t ≠ [])
    (tight : Bool) : joinBlocks tight [w] = .ok t := by
  simp [joinBlocks, blockParts, hw, ht, hne, Except.map, Bytes.join]

lemma trimNewlines_of_last {t : Bytes} (h : ∀ b ∈ t.getLast?, b ≠ Bytes.newline) : trimNewlines t = t :=
  Bytes.trimRight_eq_self fun b hb => beq_eq_false_iff_ne.mpr (h b hb)

lemma own_shortcode (hr : env.registry = [("Shortcode", .shortcode)]) (hs : s.kind = .shortcode sc) :
    (writeNode env at_ s).own = .ok sc.print := by
  obtain ⟨info, children⟩ := s
  replace hs : info.kind = .shortcode sc := hs
  have hfound : env.registry.find? (·.1 == (Kind.shortcode sc).name) = some ("Shortcode", .shortcode) := by
    rw [hr]
    rfl
  rw [writeNode]
  simp only [hs, hfound, Written.own, visit, Node.kind, Node.info]

lemma own_text (hr : env.registry = [("Shortcode", .shortcode)]) (ht : text.kind = .paragraph ∨ text.kind = .textBlock)
    (hs : s.kind = .shortcode sc) (htrim : Text.trimSpace sc.print = sc.print) :
    (writeNode env at_ (.mk text [s])).own = .ok sc.print := by
  have hnone : env.registry.find? (·.1 == (Node.mk text [s]).kind.name) = none := by
    rw [hr]
    rcases ht with ht | ht <;> simp only [Node.kind, Node.info, ht] <;> rfl
  have hinline : joinInlines (writeNodes env text.kind [] [s]) = .ok sc.print := by
    simp [writeNodes, joinInlines, own_shortcode hr hs]
  rw [own_writeNode hnone]
  rcases ht with ht | ht <;>
    simp only [usual, Node.kind, Node.info, Node.children, ht] <;> rw [ht] at hinline <;>
    simp only [hinline, Except.map, htrim]

lemma write_sole {style : Style} {registry : VisitorRegistry} {source t : Bytes} {doc n : Node}
    (hr : registry.find? (·.1 == Kind.document.name) = none) (hk : doc.kind = .document) (hn : doc.children = [n])
    (hne : trimNewlines t ≠ [])
    (ht : (writeNode ⟨style, registry, source, labelsIn doc⟩ ⟨.document, [], none⟩ n).own = .ok t) :
    write style registry source doc = .ok (trimNewlines t ++ [Bytes.newline]) := by
  have hdocument : (writeNode ⟨style, registry, source, labelsIn doc⟩ ⟨.document, [], none⟩ doc).own =
      .ok (trimNewlines t) := by
    rw [own_writeNode (by rw [hk]; exact hr)]
    simp only [usual, hk, hn, writeNodes, List.head?_nil]
    simp [joinBlocks, blockParts, ht, hne, Except.map, Bytes.join]
  simp [write, hdocument, Except.map, trimNewlines_trimNewlines, hne]

lemma write_singleton {style : Style} {registry : VisitorRegistry} {source t : Bytes} {doc n : Node}
    (hr : registry.find? (·.1 == Kind.document.name) = none) (hk : doc.kind = .document) (hn : doc.children = [n])
    (hlast : ∀ b ∈ t.getLast?, b ≠ Bytes.newline) (hne : t ≠ [])
    (ht : (writeNode ⟨style, registry, source, labelsIn doc⟩ ⟨.document, [], none⟩ n).own = .ok t) :
    write style registry source doc = .ok (t ++ [Bytes.newline]) := by
  have htrim := trimNewlines_of_last hlast
  rw [write_sole hr hk hn (by rwa [htrim]) ht, htrim]

/-! ### A shortcode in a container -/

lemma isBlankText_of_head {b : UInt8} {x : Bytes} (hb : b < 0x80) (hblank : Text.isBlank b.toNat = false) :
    isBlankText (b :: x) = false := by
  simp [isBlankText, Utf8.codePoints_ascii_cons hb, hblank]

lemma isBlankText_firstLine {l : Bytes} {ls : List Bytes} (h : sc.Lines l ls) : isBlankText l = false := by
  obtain ⟨x, -, rfl⟩ := h.opening
  exact isBlankText_of_head (b := 123) (by decide) (by decide)

section

variable {style : Style} {source l : Bytes} {ls : List Bytes} {doc : Node}

lemma prefixLines_print (h : sc.Lines l ls) (hblank : ∀ m ∈ ls, isBlankText m = false) (first rest : Bytes) :
    prefixLines sc.print first rest = Bytes.join [Bytes.newline] ((first ++ l) :: ls.map (rest ++ ·)) := by
  have hls : ls.map (prefixLine rest) = ls.map (rest ++ ·) :=
    List.map_congr_left fun m hm => by rw [prefixLine, hblank m hm, if_neg Bool.false_ne_true]
  simp only [prefixLines, h.split_eq, prefixLine, isBlankText_firstLine h, Bool.false_eq_true, if_false, hls]

lemma last_join {ls : List Bytes} (h : ∀ l ∈ ls, Bytes.newline ∉ l) (hne : ∀ l ∈ ls, l ≠ []) :
    ∀ b ∈ (Bytes.join [Bytes.newline] ls).getLast?, b ≠ Bytes.newline := by
  intro b hb
  rcases ls.eq_nil_or_concat' with rfl | ⟨pre, x, rfl⟩
  · cases hb
  · have hjoin := @Bytes.unlines_eq_join (pre ++ [x]) (by simp)
    rw [Bytes.unlines_append, Bytes.unlines_cons, Bytes.unlines_nil, ← List.append_assoc] at hjoin
    rw [← List.append_cancel_right hjoin, List.getLast?_append_of_ne_nil _ (hne x (by simp))] at hb
    rintro rfl
    exact h x (by simp) (List.mem_of_getLast? hb)

lemma joinBlocks_text (hreg : env.registry = [("Shortcode", .shortcode)])
    (ht : text.kind = .paragraph ∨ text.kind = .textBlock) (hs : s.kind = .shortcode sc) (hsc : sc.Recognized)
    (tight : Bool) : joinBlocks tight [writeNode env at_ (.mk text [s])] = .ok sc.print := by
  refine joinBlocks_singleton (own_text hreg ht hs hsc.trimSpace_print) (trimNewlines_of_last ?_) hsc.print_ne_nil tight
  rw [hsc.getLast?_print]
  rintro _ ⟨⟩
  decide

def firstMarker (env : Environment) (mark : UInt8) (start : Nat) : Bytes :=
  if mark == byte '.' || mark == byte ')' then decimal start ++ [mark] else env.style.bullet

lemma isMarker_first {mark : UInt8} {start : Nat} (hstyle : env.style.problem? = none) (hstart : start < 10 ^ 9) :
    IsMarker (firstMarker env mark start) := by
  rw [firstMarker]
  split
  · rename_i hmark
    exact .inr ⟨start, mark, hstart, by simpa using hmark, rfl⟩
  · exact .inl (mem_of_problem?_eq_none hstyle).1

lemma list_singleton {mark : UInt8} {start : Nat} {tight : Bool} {parent : Kind} {next : Option Node} {w : Written}
    {t : Bytes} (hw : joinBlocks w.tight w.children = .ok t) :
    list env ⟨parent, [], next⟩ mark start tight [w] = .ok (listItem (firstMarker env mark start) t) := by
  have hitem : ∀ marker : Nat → Bytes, items marker 0 [w] = .ok [listItem (marker 0) t] := by
    intro marker
    rw [items, hw]
    rfl
  have hbullet : bullet env.style [] = env.style.bullet := rfl
  have hjoin : ∀ sep l : Bytes, Bytes.join sep [l] = l := fun sep l => by simp [Bytes.join]
  simp only [list, hitem, hbullet, firstMarker, Nat.add_zero, ite_self]
  exact congrArg Except.ok (hjoin _ _)

variable (hk : doc.kind = .document) (ht : text.kind = .paragraph ∨ text.kind = .textBlock) (hs : s.kind = .shortcode sc)
  (hsc : sc.Recognized) (h : sc.Lines l ls)
include hk ht hs hsc h

lemma write_quote {quote : Info} (hq : quote.kind = .blockquote) (hn : doc.children = [.mk quote [.mk text [s]]])
    (hblank : ∀ m ∈ ls, isBlankText m = false) :
    write style [("Shortcode", .shortcode)] source doc = .ok (Bytes.unlines ((l :: ls).map quotedLine)) := by
  have hne : sc.print.isEmpty = false := by simpa using hsc.print_ne_nil
  rw [Bytes.unlines_eq_join (by simp)]
  refine write_singleton rfl hk hn (last_join ?_ ?_) ?_ ?_
  · intro m hm
    obtain ⟨k, hk, rfl⟩ := List.mem_map.mp hm
    rintro (_ | ⟨_, _ | ⟨_, hmem⟩⟩)
    exact h.unbroken k hk hmem
  · intro m hm
    obtain ⟨k, hk, rfl⟩ := List.mem_map.mp hm
    exact List.cons_ne_nil _ _
  · rw [List.map_cons]
    intro hnil
    have hj := @Bytes.unlines_eq_join (quotedLine l :: ls.map quotedLine) (by simp)
    rw [hnil] at hj
    cases hj
  · rw [own_writeNode (by simp only [Node.kind, Node.info, hq]; rfl)]
    have hinner := @joinBlocks_text ⟨style, [("Shortcode", .shortcode)], source, labelsIn doc⟩ ⟨.blockquote, [], none⟩
      text s sc rfl ht hs hsc false
    have hlines := prefixLines_print h hblank (utf8 "> ") (utf8 "> ")
    simp only [usual, Node.kind, Node.info, Node.children, hq, writeNodes, List.head?_nil, hinner, Except.map, hne, hlines,
      Bool.false_eq_true, if_false]
    rfl

lemma write_item {i j : Info} {mark : UInt8} {start : Nat} {tight : Bool} (hstyle : style.problem? = none)
    (hi : i.kind = .list mark start tight) (hstart : start < 10 ^ 9)
    (hn : doc.children = [.mk i [.mk j [.mk text [s]]]]) (hls : ls = []) :
    ∃ m, IsMarker m ∧
      write style [("Shortcode", .shortcode)] source doc = .ok (Bytes.unlines [itemLine m sc.print]) := by
  obtain rfl := hls
  have hne : sc.print.isEmpty = false := by simpa using hsc.print_ne_nil
  have hl : l = sc.print := by simpa [Bytes.join] using h.join_eq
  generalize henv : (⟨style, [("Shortcode", .shortcode)], source, labelsIn doc⟩ : Environment) = env
  have hreg : env.registry = [("Shortcode", .shortcode)] := by rw [← henv]
  have hmarker := @isMarker_first env mark start (by rw [← henv]; exact hstyle) hstart
  refine ⟨_, hmarker, ?_⟩
  have hitem : listItem (firstMarker env mark start) sc.print = itemLine (firstMarker env mark start) sc.print := by
    have hline := prefixLines_print h (by simp) (firstMarker env mark start ++ utf8 " ")
      (Bytes.spaces ((firstMarker env mark start).length + 1))
    rw [listItem, hne, if_neg Bool.false_ne_true, hline, hl]
    simp [Bytes.join, itemLine, show utf8 " " = [byte ' '] from rfl]
  have hown : (writeNode env ⟨.document, [], none⟩ (.mk i [.mk j [.mk text [s]]])).own =
      .ok (itemLine (firstMarker env mark start) sc.print) := by
    have hinner := @joinBlocks_text env ⟨j.kind, [], none⟩ text s sc hreg ht hs hsc
    have hchildren : (writeNode env ⟨i.kind, [], none⟩ (.mk j [.mk text [s]])).children =
        [writeNode env ⟨j.kind, [], none⟩ (.mk text [s])] := by
      simp only [writeNode, writeNodes, Written.children, List.head?_nil]
    rw [own_writeNode (by rw [hreg]; simp only [Node.kind, Node.info, hi]; rfl), ← hitem]
    simp only [usual, Node.kind, Node.info, Node.children, writeNodes, List.head?_nil]
    rw [hi] at hchildren ⊢
    exact list_singleton (by rw [hchildren]; exact hinner _)
  have hlast : (itemLine (firstMarker env mark start) sc.print).getLast? = some 125 := by
    rw [itemLine, List.getLast?_append_of_ne_nil _ hsc.print_ne_nil, hsc.getLast?_print]
  rw [← henv] at hown hlast ⊢
  refine (write_singleton rfl hk hn ?_ ?_ hown).trans (congrArg Except.ok (List.append_nil _).symm)
  · rw [hlast]
    rintro _ ⟨⟩
    decide
  · rintro hnil
    rw [hnil] at hlast
    cases hlast

end

end MarkdownTidy.Writer
