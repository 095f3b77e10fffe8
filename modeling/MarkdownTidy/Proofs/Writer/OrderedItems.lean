import MarkdownTidy.Proofs.Document.OrderedLines
import MarkdownTidy.Proofs.Plain.Writing
import MarkdownTidy.Proofs.Writer.Containers
import MarkdownTidy.Proofs.Writer.SiblingLists

/-! The lines that an ordered list is written as, which begin an item wherever its text begins, and nowhere else. -/

namespace MarkdownTidy

namespace ItemLines

variable {mark : UInt8} {offset n : Nat} {f : Footing} {ls rest : List Bytes}

lemma dropLast (h : ItemLines mark f offset n (ls ++ [[]])) : ItemLines mark f offset n ls := by
  generalize hls : ls ++ [[]] = ks at h
  induction h generalizing ls with
  | done => simp at hls
  | blank h ih =>
    cases ls with
    | nil =>
      obtain rfl : _ = [] := (List.cons.inj hls).2.symm
      cases h
      exact .done
    | cons l ls =>
      obtain ⟨rfl, htail⟩ := List.cons.inj hls
      exact .blank (ih htail)
  | text hz hq hf hg h ih =>
    cases ls with
    | nil =>
      have hnil := (List.append_eq_nil_iff.mp (List.cons.inj hls).1.symm).2
      rw [hnil] at hz
      cases hz
    | cons l ls =>
      obtain ⟨rfl, htail⟩ := List.cons.inj hls
      exact .text hz hq hf hg (ih htail)
  | item hm hy hq hg h ih =>
    cases ls with
    | nil =>
      obtain ⟨b, x, hb, -⟩ := hm.exists_cons
      have hnil := (List.append_eq_nil_iff.mp (List.cons.inj hls).1.symm).1
      rw [hb] at hnil
      cases hnil
    | cons l ls =>
      obtain ⟨rfl, htail⟩ := List.cons.inj hls
      exact .item hm hy hq hg (ih htail)

end ItemLines

namespace Writer

open Bytes

/-- The text of an item that lines of its own keep together: it does not begin with white space, no line has the front
of a footnote, a comment, an instruction or a declaration where a block may begin, and behind a line that ends in a list
marker there is none without text of its own. -/
structure ItemText (s : Bytes) : Prop where
  flush : Text.startsBlank s = false
  quiet : ∀ l ∈ split newline s, Quiet l
  chain : (split newline s).IsChain fun l m => EndsInMarker l → Solid m ∧ isBlankText m = false

instance (s : Bytes) : Decidable (ItemText s) :=
  decidable_of_iff (Text.startsBlank s = false ∧ (∀ l ∈ split newline s, Quiet l) ∧
      (split newline s).IsChain fun l m => EndsInMarker l → Solid m ∧ isBlankText m = false)
    ⟨fun h => ⟨h.1, h.2.1, h.2.2⟩, fun h => ⟨h.flush, h.quiet, h.chain⟩⟩

variable {mark : UInt8} {m s l : Bytes} {offset n : Nat} {f : Footing} {ls rest : List Bytes}

lemma isBlankText_of_isBlank (h : Bytes.isBlank s = true) : isBlankText s = true := by
  induction s with
  | nil => rfl
  | cons b s ih =>
    rw [Bytes.isBlank, List.all_cons, Bool.and_eq_true] at h
    obtain ⟨hb, hblank⟩ := Text.isBlank_of_isSpace h.1
    rw [isBlankText, Utf8.codePoints_ascii_cons hb, List.all_cons, hblank, Bool.true_and]
    exact ih h.2

lemma prefixLine_spaces (k : Nat) (l : Bytes) : prefixLine (spaces k) l = if isBlankText l then [] else spaces k ++ l := by
  have htrim : ∀ c ∈ spaces k, (c == byte ' ' || c == byte '\t') = true := by
    intro c hc
    rw [List.eq_of_mem_replicate hc]
    rfl
  rw [prefixLine]
  split
  · exact trimRight_append_of_all (a := []) htrim
  · rfl

lemma itemLines_rest (hq : ∀ l ∈ ls, Quiet l)
    (hchain : ls.IsChain fun l m => EndsInMarker l → Solid m ∧ isBlankText m = false)
    (hf : f = .firm ∨ f = .loose ∧ ∀ l ∈ ls.head?, Solid l ∧ isBlankText l = false)
    (hrest : ItemLines mark .lost offset n rest) :
    ItemLines mark f offset n (ls.map (prefixLine (spaces offset)) ++ rest) := by
  induction ls generalizing f with
  | nil => exact hrest.of_lost f
  | cons l ls ih =>
    rw [List.forall_mem_cons] at hq
    have hnext := List.isChain_cons.mp hchain
    rw [List.map_cons, List.cons_append, prefixLine_spaces]
    split
    · rename_i hblank
      obtain rfl : f = .firm := hf.resolve_right fun h => by simp [(h.2 l rfl).2] at hblank
      exact .blank (ih hq.2 hnext.2 (.inl rfl))
    · rename_i hblank
      have hz : Bytes.isBlank l = false := by
        rw [Bool.eq_false_iff]
        exact fun h => hblank (isBlankText_of_isBlank h)
      have hsolid : f = .firm ∨ f = .loose ∧ Solid l := hf.imp_right fun h => ⟨h.1, (h.2 l rfl).1⟩
      by_cases hends : EndsInMarker l
      · exact .text (g := .loose) hz hq.1 hsolid nofun (ih hq.2 hnext.2 (.inr ⟨rfl, fun m hm => hnext.1 m hm hends⟩))
      · exact .text hz hq.1 hsolid (fun _ => hends) (ih hq.2 hnext.2 (.inl rfl))

lemma exists_firstLine (hs : Text.startsBlank s = false) (hne : s ≠ []) :
    ∃ l ls, split newline s = l :: ls ∧ isBlankText l = false ∧ Flush l := by
  obtain ⟨ls, t, hsplit, hs', hn⟩ := exists_split s
  obtain ⟨l, ls', hl⟩ := List.exists_cons_of_ne_nil (split_ne_nil s)
  obtain ⟨x, hx, hhead⟩ : ∃ x, s = l ++ x ∧ ∀ b ∈ x.head?, b = newline := by
    rw [hsplit] at hl
    cases ls with
    | nil =>
      obtain ⟨rfl, -⟩ := List.cons.inj hl
      exact ⟨[], by simpa using hs', by simp⟩
    | cons k ls =>
      obtain ⟨rfl, -⟩ := List.cons.inj hl
      exact ⟨newline :: (unlines ls ++ t), by simpa using hs', by simp⟩
  refine ⟨l, ls', hl, ?_⟩
  cases l with
  | nil =>
    cases x with
    | nil => exact absurd hx hne
    | cons b x =>
      obtain rfl := hhead b rfl
      rw [hx, Text.startsBlank, List.nil_append, Utf8.codePoints_ascii_cons (by decide)] at hs
      cases hs
  | cons b y =>
    have hpoints : ∃ z, Utf8.codePoints s = Utf8.codePoints (b :: y) ++ z := by
      cases x with
      | nil => exact ⟨[], by rw [hx, List.append_nil, List.append_nil]⟩
      | cons c x =>
        obtain rfl := hhead c rfl
        exact ⟨_, by rw [hx, Utf8.codePoints_append_ascii (by decide)]⟩
    obtain ⟨z, hz⟩ := hpoints
    obtain ⟨r, rs, hr⟩ := List.exists_cons_of_ne_nil (Plain.codePoints_ne_nil (List.cons_ne_nil b y))
    have hblank : Text.isBlank r.code = false := by
      rw [Text.startsBlank, hz, hr] at hs
      exact hs
    refine ⟨by rw [isBlankText, hr, List.all_cons, hblank, Bool.false_and], b, rfl, ?_⟩
    rw [Bool.eq_false_iff]
    intro hspace
    obtain ⟨hb, hb'⟩ := Text.isBlank_of_isSpace hspace
    rw [Utf8.codePoints_ascii_cons hb] at hr
    obtain ⟨rfl, -⟩ := List.cons.inj hr
    rw [hb'] at hblank
    cases hblank

lemma exists_listItem_lines (hs : ItemText s) (hrest : ItemLines mark .lost (m.length + 1) n rest) :
    ∃ ks, listItem m s ++ [newline] = unlines ks ∧ ListLines mark m n (ks ++ rest) := by
  by_cases hne : s = []
  · subst hne
    refine ⟨[m], by simp [listItem], ?_⟩
    have hlines : ListLines mark m n ((m ++ []) :: rest) := .mk .none quiet_nil (.inl rfl) hrest
    rwa [List.append_nil] at hlines
  · obtain ⟨l, ls, hsplit, hblank, hflush⟩ := exists_firstLine hs.flush hne
    have hq := hs.quiet
    have hchain := hs.chain
    rw [hsplit] at hq hchain
    rw [List.forall_mem_cons] at hq
    have hnext := List.isChain_cons.mp hchain
    have hlines : listItem m s = join [newline] ((m ++ byte ' ' :: l) :: ls.map (prefixLine (spaces (m.length + 1)))) := by
      have hempty : s.isEmpty = false := by simpa using hne
      rw [listItem, hempty, if_neg Bool.false_ne_true, prefixLines, hsplit]
      dsimp only
      rw [prefixLine, hblank, if_neg Bool.false_ne_true, List.append_assoc]
      rfl
    refine ⟨_, by rw [hlines, ← unlines_eq_join (List.cons_ne_nil _ _)], ?_⟩
    by_cases hends : EndsInMarker l
    · refine .mk (f := .loose) (.text hflush) hq.1 (.inr ⟨List.cons_ne_nil _ _, fun h => by cases h⟩) ?_
      exact itemLines_rest hq.2 hnext.2 (.inr ⟨rfl, fun k hk => hnext.1 k hk hends⟩) hrest
    · refine .mk (f := .firm) (.text hflush) hq.1 (.inr ⟨List.cons_ne_nil _ _, fun _ => hends⟩) ?_
      exact itemLines_rest hq.2 hnext.2 (.inl rfl) hrest

def listItems (marker : Nat → Bytes) : Nat → List Bytes → List Bytes
  | _, [] => []
  | i, s :: ss => listItem (marker i) s :: listItems marker (i + 1) ss

lemma items_eq {marker : Nat → Bytes} {ws : List Written} {texts : List Bytes}
    (h : ws.map (fun w => joinBlocks w.tight w.children) = texts.map .ok) (i : Nat) :
    items marker i ws = .ok (listItems marker i texts) := by
  induction ws generalizing texts i with
  | nil =>
    obtain rfl : texts = [] := by simpa using h.symm
    rfl
  | cons w ws ih =>
    cases texts with
    | nil => cases h
    | cons s ss =>
      obtain ⟨hw, hws⟩ := List.cons.inj h
      dsimp only at hw
      rw [items, hw, ih hws (i + 1)]
      rfl

lemma exists_list_lines {marker : Nat → Bytes} (tight : Bool) {ss : List Bytes} (hs : ItemText s) (hss : ∀ t ∈ ss, ItemText t)
    {i : Nat} (hmarker : ∀ j ≤ ss.length, IsOrdinal mark (marker (i + j))) :
    ∃ ks, join (if tight then utf8 "\n" else utf8 "\n\n") (listItems marker i (s :: ss)) ++ [newline] = unlines ks ∧
      ListLines mark (marker i) ss.length ks := by
  induction ss generalizing s i with
  | nil =>
    obtain ⟨ks, hks, hlines⟩ := exists_listItem_lines hs (@ItemLines.done mark .lost ((marker i).length + 1))
    refine ⟨ks, ?_, by simpa using hlines⟩
    rw [← hks]
    simp [listItems, join]
  | cons t ts ih =>
    rw [List.forall_mem_cons] at hss
    obtain ⟨ks, hks, hlines⟩ := ih hss.1 hss.2 (i := i + 1) fun j hj => by
      rw [Nat.add_assoc, Nat.add_comm 1]
      exact hmarker (j + 1) (Nat.succ_le_succ hj)
    have hnext : ItemLines mark .lost ((marker i).length + 1) (ts.length + 1) ks :=
      hlines.item (hmarker 1 (Nat.succ_le_succ (Nat.zero_le _)))
    have hcons : listItems marker (i + 1) (t :: ts) ≠ [] := List.cons_ne_nil _ _
    rw [listItems, join_cons hcons]
    cases tight with
    | true =>
      obtain ⟨ls, hls, hitem⟩ := exists_listItem_lines hs hnext
      refine ⟨ls ++ ks, ?_, hitem⟩
      rw [unlines_append, ← hls, ← hks]
      simp only [if_true, List.append_assoc]
      rfl
    | false =>
      obtain ⟨ls, hls, hitem⟩ := exists_listItem_lines hs (.blank hnext)
      refine ⟨ls ++ [] :: ks, ?_, hitem⟩
      rw [unlines_append, unlines_cons, ← hls, ← hks]
      simp only [Bool.false_eq_true, if_false, List.append_assoc]
      rfl

lemma exists_trimmed_lines (hm : m ≠ []) (h : s ++ [newline] = unlines ls) (hls : ListLines mark m n ls)
    (hn : ∀ l ∈ ls, newline ∉ l) : ∃ ks, trimNewlines s ++ [newline] = unlines ks ∧ ListLines mark m n ks := by
  induction ls using List.reverseRecOn generalizing s with
  | nil => cases hls
  | append_singleton ls x ih =>
    have hs : s = unlines ls ++ x := by
      rw [unlines_append, unlines_cons, unlines_nil, ← List.append_assoc] at h
      exact List.append_cancel_right h
    rw [List.forall_mem_append, List.forall_mem_singleton] at hn
    by_cases hx : x = []
    · subst hx
      have hfront : ls ≠ [] ∧ ListLines mark m n ls := by
        generalize hks : ls ++ [[]] = ks at hls
        obtain ⟨hy, hq, hf, hls⟩ := hls
        cases ls with
        | nil => exact absurd (List.append_eq_nil_iff.mp (List.cons.inj hks).1.symm).1 hm
        | cons l ls =>
          obtain ⟨rfl, rfl⟩ := List.cons.inj hks
          exact ⟨List.cons_ne_nil _ _, .mk hy hq hf hls.dropLast⟩
      have hjoin := unlines_eq_join hfront.1
      obtain ⟨ks, hks, hlines⟩ := ih hjoin.symm hfront.2 hn.1
      refine ⟨ks, ?_, hlines⟩
      rw [← hks, hs, List.append_nil, hjoin]
      exact congrArg (· ++ [newline]) (trimRight_append_of_all (by simp))
    · refine ⟨ls ++ [x], ?_, hls⟩
      rw [trimNewlines_of_last, h]
      intro b hb
      rw [hs, List.getLast?_append_of_ne_nil _ hx] at hb
      rintro rfl
      exact hn.2 (List.mem_of_getLast? hb)

end Writer

end MarkdownTidy
