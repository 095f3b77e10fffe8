import MarkdownTidy.Proofs.Plain.HeadingLine

/-! The block that each line of a plain document begins. -/

namespace MarkdownTidy.Plain

variable {source : Bytes} {number start : Nat} {l : Bytes} {ls : List Bytes}

/-! ### Fences -/

def LabelSpan (source : Bytes) (info : Option Span) (i : Bytes) : Prop :=
  (info = none ∧ i = []) ∨ ∃ s, info = some s ∧ s.Covers source i

def labelSpan? (c : LineCursor) (n : Nat) (r : Bytes) : Option Span :=
  let left := (r.takeWhile Bytes.isSpace).length
  let right := r.length - (Bytes.trimRight Bytes.isSpace r).length
  let start := c.span.start - c.padding + n + left
  let stop := c.span.stop - right
  if (decide (r.length > 1) && decide (left < r.length - right)) && start != stop then some ⟨start, stop, 0⟩ else none

lemma fencedCode_marks {c : LineCursor} {n : Nat} {r : Bytes} (hoff : Opening.blockOffset? c = some 0)
    (hrest : c.rest = List.replicate n (byte '`') ++ r) (hn : 3 ≤ n) (hmark : byte '`' ∉ r) :
    Opening.fencedCode c = some { block := .fencedCode (labelSpan? c n r) (byte '`') 0 n, cursor := c } := by
  have hhead : r.head? ≠ some (byte '`') := fun h => hmark (List.mem_of_head? h)
  have hdrop : ∀ x : Bytes, x.drop 0 = x := fun _ => rfl
  obtain ⟨k, rfl⟩ : ∃ k, n = k + 1 := ⟨n - 1, by omega⟩
  have hcons : List.replicate (k + 1) (byte '`') ++ r = byte '`' :: (List.replicate k (byte '`') ++ r) := rfl
  have hfirst : (byte '`' != byte '`' && byte '`' != byte '~' || decide (k + 1 < 3)) = false := by simp; omega
  have hvalue : ∀ i j, (Bytes.slice r i j).contains (byte '`') = false := by
    intro i j
    simp only [List.contains_eq_mem, decide_eq_false_iff_not]
    exact fun h => hmark (List.drop_subset _ _ (List.take_subset _ _ h))
  simp only [Opening.fencedCode, hoff, hrest, hdrop]
  rw [hcons]
  dsimp only
  rw [← hcons]
  simp only [Bytes.length_run hhead, Nat.zero_add, Nat.add_zero, Bytes.drop_run, hfirst, hvalue, Bool.and_false,
    Bool.false_eq_true, if_false, labelSpan?]

lemma labelSpan?_blank {c : LineCursor} {n : Nat} {r : Bytes} (hr : ∀ b ∈ r, Bytes.isSpace b = true) :
    labelSpan? c n r = none := by
  have hright : Bytes.trimRight Bytes.isSpace r = [] := by
    rw [Bytes.trimRight_eq_rdropWhile, List.rdropWhile_eq_nil_iff]
    exact hr
  simp [labelSpan?, hright]

lemma exists_labelSpan? {c : LineCursor} {n j : Nat} {i y : Bytes} (hc : c.padding = 0)
    (hcover : c.span.Covers source (List.replicate n (byte '`') ++ (Bytes.spaces j ++ (i ++ y)))) (hi : Trimmed i)
    (hne : i ≠ []) (hy0 : y ≠ []) (hy : ∀ b ∈ y, Bytes.isSpace b = true) :
    ∃ s, labelSpan? c n (Bytes.spaces j ++ (i ++ y)) = some s ∧ s.Covers source i := by
  have hi0 := List.length_pos_iff.mpr hne
  have hy1 := List.length_pos_iff.mpr hy0
  have hleft : ((Bytes.spaces j ++ (i ++ y)).takeWhile Bytes.isSpace).length = j := by
    obtain ⟨b, i, rfl⟩ := List.exists_cons_of_ne_nil hne
    rw [List.takeWhile_append_of_pos fun b => Bytes.isSpace_of_mem_spaces]
    simp [hi.isSpace_head (b := b) rfl]
  have hright : (Bytes.trimRight Bytes.isSpace (Bytes.spaces j ++ (i ++ y))).length = j + i.length := by
    rw [← List.append_assoc, Bytes.trimRight_append_of_all hy, Bytes.trimRight_eq_self, List.length_append, Bytes.length_spaces]
    rw [List.getLast?_append_of_ne_nil _ hne]
    exact fun c => hi.isSpace_last
  have hlen : (Bytes.spaces j ++ (i ++ y)).length = j + i.length + y.length := by
    simp only [List.length_append, Bytes.length_spaces]
    omega
  have hstop : c.span.stop - (j + i.length + y.length - (j + i.length)) = c.span.start + n + j + i.length := by
    rw [hcover.stop, List.length_append, List.length_replicate, hlen]
    omega
  refine ⟨⟨c.span.start + n + j, c.span.start + n + j + i.length, 0⟩, ?_, ?_⟩
  · simp only [labelSpan?, hleft, hright, hlen, hc, Nat.sub_zero, hstop]
    refine if_pos ?_
    simp only [Bool.and_eq_true, decide_eq_true_eq, bne_iff_ne, ne_eq]
    omega
  · have hpart := Span.Covers.part (a := List.replicate n (byte '`') ++ Bytes.spaces j) (t := i) (b := y)
      (by simpa using hcover)
    exact ⟨rfl, rfl, by simpa [Nat.add_assoc] using hpart.isPrefix⟩

lemma fencedCode_fence (number : Nat) {n j m : Nat} {i : Bytes} (hn : 3 ≤ n) (hi : Label i)
    (hl : l = List.replicate n (byte '`') ++ (Bytes.spaces j ++ i ++ Bytes.spaces m))
    (hs : source.drop start = Bytes.unlines (l :: ls)) :
    ∃ info, LabelSpan source info i ∧ Opening.fencedCode (.front number start (l :: ls)) =
      some { block := .fencedCode info (byte '`') 0 n, cursor := .front number start (l :: ls) } := by
  have hend := isSpace_of_mem_end (m := m)
  have hrest : l ++ [Bytes.newline] =
      List.replicate n (byte '`') ++ (Bytes.spaces j ++ (i ++ (Bytes.spaces m ++ [Bytes.newline]))) := by
    rw [hl]
    simp only [List.append_assoc]
  have hcover := LineCursor.span_front_covers number hs
  rw [hrest] at hcover
  generalize hy : Bytes.spaces m ++ [Bytes.newline] = y at hend hrest hcover
  have hy0 : y ≠ [] := by simp [← hy]
  have hmark : byte '`' ∉ Bytes.spaces j ++ (i ++ y) := by
    simp only [List.mem_append, not_or]
    exact ⟨fun h => absurd (Bytes.eq_of_mem_spaces h) (by decide), hi.noMark,
      fun h => absurd (hend _ h) (by decide)⟩
  have hoff : Opening.blockOffset? (.front number start (l :: ls)) = some 0 := by
    obtain ⟨k, rfl⟩ : ∃ k, n = k + 1 := ⟨n - 1, by omega⟩
    rw [Opening.blockOffset?, LineCursor.rest_front_cons, LineCursor.column_front, hrest,
      List.replicate_succ, List.cons_append]
    rfl
  refine ⟨_, ?_, fencedCode_marks hoff (LineCursor.rest_front_cons.trans hrest) hn hmark⟩
  by_cases hne : i = []
  · subst hne
    refine .inl ⟨labelSpan?_blank fun b hb => ?_, rfl⟩
    exact (List.mem_append.mp hb).elim Bytes.isSpace_of_mem_spaces (hend b)
  · exact .inr (exists_labelSpan? rfl hcover hi.toTrimmed hne hy0 hend)

/-! ### Code and paragraphs -/

lemma take?_spaces {k : Nat} (hk : k ≤ 4) (x : Bytes) :
    Indent.take? (Bytes.spaces k ++ x) 0 0 4 = Indent.take?.go 0 0 4 k k 0 x := by
  have hg : ∀ k w, w + k ≤ 4 → Indent.take?.go 0 0 4 w w 0 (Bytes.spaces k ++ x) =
      Indent.take?.go 0 0 4 (w + k) (w + k) 0 x := by
    intro k
    induction k with
    | zero => exact fun _ _ => rfl
    | succ k ih =>
      intro w hw
      have ht : ¬ (byte ' ' == byte '\t' && decide (w < 4)) = true := by
        rw [show (byte ' ' == byte '\t') = false from rfl, Bool.false_and]
        exact Bool.false_ne_true
      have hs : (byte ' ' == byte ' ' && decide (w < 4)) = true := by
        simp only [beq_self_eq_true, Bool.true_and, decide_eq_true_eq]
        omega
      rw [Bytes.spaces_succ, List.cons_append, Indent.take?.go, if_neg ht, if_pos hs, ih (w + 1) (by omega),
        Nat.add_assoc, Nat.add_comm 1 k]
  rw [Indent.take?, if_neg (by decide), hg k 0 (by omega), Nat.zero_add]

lemma take?_deep (x : Bytes) : Indent.take? (Bytes.spaces 4 ++ x) 0 0 4 = some (4, 0) := by
  rw [take?_spaces (Nat.le_refl 4)]
  cases x <;> simp [Indent.take?.go, Indent.take?.finish]

lemma take?_shallow {k : Nat} {x : Bytes} (hk : k ≤ 3)
    (hx : ∀ b ∈ x.head?, b ≠ byte ' ' ∧ b ≠ byte '\t') :
    Indent.take? (Bytes.spaces k ++ x) 0 0 4 = none := by
  have hw : ¬ k ≥ 4 := by omega
  rw [take?_spaces (by omega)]
  cases x with
  | nil => simp [Indent.take?.go, Indent.take?.finish, hw]
  | cons b x =>
    have hb := hx b rfl
    simp [Indent.take?.go, Indent.take?.finish, hb.1, hb.2, hw]

lemma codeSpan_eq (c : LineCursor) {s : Span} (h : s.padding = 0) (n : Nat) :
    Opening.codeSpan c s n = s := by
  simp [Opening.codeSpan, h]

lemma isBlank_line (l : Bytes) : Bytes.isBlank (l ++ [Bytes.newline]) = Bytes.isBlank l := by
  simp only [Bytes.isBlank, List.all_append]
  exact Bool.and_true _

lemma codeBlock_deep (number : Nat) {t : Bytes} (hb : Bytes.isBlank t = false) (hl : l = Bytes.spaces 4 ++ t)
    (hs : source.drop start = Bytes.unlines (l :: ls)) :
    ∃ span c, span.Covers source (t ++ [Bytes.newline]) ∧
      (LineCursor.front number start (l :: ls)).SameLine c ∧
      Opening.codeBlock (.front number start (l :: ls)) =
        some { block := .codeBlock, lines := [span], cursor := c } := by
  have hlen : l.length = 4 + t.length := by simp [hl]
  have hblank : Bytes.isBlank (l ++ [Bytes.newline]) = false := by
    rw [isBlank_line, hl]
    exact hb
  have hcover : (LineCursor.within number start l ls 4).span.Covers source (t ++ [Bytes.newline]) :=
    LineCursor.span_within_covers hs hl
  have hspan : (LineCursor.within number start l ls 4).span.length - 1 = t.length := by
    rw [hcover.length_eq]
    simp
  refine ⟨_, .within number start l ls (4 + t.length), hcover, LineCursor.sameLine_within _, ?_⟩
  simp only [Opening.codeBlock, LineCursor.rest_front_cons, LineCursor.column_front, hblank]
  rw [hl, List.append_assoc, take?_deep, ← hl, LineCursor.front_eq_within]
  dsimp only
  rw [LineCursor.advancePadded_within (by omega), Nat.zero_add, codeSpan_eq _ hcover.padding, hspan,
    LineCursor.advance_within (by omega)]
  rfl

lemma take?_words {k m : Nat} {t : Bytes} (h : Words t) (hk : k ≤ 3)
    (hl : l = Bytes.spaces k ++ t ++ Bytes.spaces m) :
    Indent.take? (l ++ [Bytes.newline]) 0 0 4 = none := by
  rw [hl, List.append_assoc, List.append_assoc]
  apply take?_shallow hk
  intro b hb
  rw [List.head?_append_of_ne_nil _ h.ne_nil] at hb
  have hs := h.isSpace_head hb
  constructor <;> rintro rfl <;> cases hs

lemma codeBlock_words {k m : Nat} {t : Bytes} (h : Words t) (hk : k ≤ 3)
    (hl : l = Bytes.spaces k ++ t ++ Bytes.spaces m) :
    Opening.codeBlock (.front number start (l :: ls)) = none := by
  simp only [Opening.codeBlock, LineCursor.rest_front_cons, LineCursor.column_front, take?_words h hk hl]

lemma codeBlock_blank (hb : Bytes.isBlank l = true) :
    Opening.codeBlock (.front number start (l :: ls)) = none := by
  simp only [Opening.codeBlock, LineCursor.rest_front_cons, isBlank_line, hb, if_true]
  cases Indent.take? (l ++ [Bytes.newline]) (LineCursor.front number start (l :: ls)).column 0 4 <;> rfl

def Carries (source : Bytes) (s : Span) (p : Bytes) : Prop :=
  ∃ k m, m ≤ 1 ∧ s.Covers source (Bytes.spaces k ++ (p ++ (Bytes.spaces m ++ [Bytes.newline])))

lemma toLastByte_front : (LineCursor.front number start (l :: ls)).toLastByte =
    .within number start l ls l.length := by
  have hs : (LineCursor.front number start (l :: ls)).span.length - 1 = l.length := by
    simp [LineCursor.span, LineCursor.front, Span.length]
  rw [LineCursor.toLastByte, hs, LineCursor.front_eq_within, LineCursor.advance_within (by omega),
    Nat.zero_add]

lemma paragraph_words (number : Nat) {k m : Nat} {t : Bytes} (h : Words t) (hm : m ≤ 1)
    (hl : l = Bytes.spaces k ++ t ++ Bytes.spaces m)
    (hs : source.drop start = Bytes.unlines (l :: ls)) :
    ∃ span c, Carries source span t ∧ (LineCursor.front number start (l :: ls)).SameLine c ∧
      Opening.paragraph source (.front number start (l :: ls)) =
        some { block := .paragraph, lines := [span], cursor := c } := by
  have hcover := LineCursor.span_front_covers number hs
  have hline : l ++ [Bytes.newline] = Bytes.spaces k ++ (t ++ (Bytes.spaces m ++ [Bytes.newline])) := by
    rw [hl]
    simp only [List.append_assoc]
  rw [hline] at hcover
  have htrim := hcover.trimLeft (fun _ => Bytes.isSpace_of_mem_spaces) (by
    rw [List.head?_append_of_ne_nil _ h.ne_nil]
    exact fun c => h.isSpace_head)
  refine ⟨_, .within number start l ls l.length, ⟨0, m, hm, htrim⟩, LineCursor.sameLine_within _, ?_⟩
  have hne : (LineCursor.span (.front number start (l :: ls)) |>.trimLeft source).isEmpty = false := by
    simp only [Span.isEmpty, htrim.stop, Bool.and_eq_false_iff]
    left
    simp only [decide_eq_false_iff_not, List.length_append, List.length_singleton]
    omega
  simp only [Opening.paragraph, toLastByte_front, hne]
  rfl

lemma paragraph_blank (hb : Bytes.isBlank l = true) (hs : source.drop start = Bytes.unlines (l :: ls)) :
    Opening.paragraph source (.front number start (l :: ls)) = none := by
  have hcover := LineCursor.span_front_covers number hs
  rw [← List.append_nil (l ++ [Bytes.newline])] at hcover
  rw [← isBlank_line] at hb
  have htrim := hcover.trimLeft (List.all_eq_true.mp hb) (by simp)
  have hempty : (LineCursor.span (.front number start (l :: ls)) |>.trimLeft source).isEmpty = true := by
    simp [Span.isEmpty, htrim.stop, htrim.padding]
  simp only [Opening.paragraph, hempty]
  rfl

end MarkdownTidy.Plain
