import MarkdownTidy.FrontMatter.Split
import MarkdownTidy.Proofs.Bytes.Cutting

/-! The block that is found between fences. The search takes a text line by line: a line without a
fence below it is passed as a whole, and the first fence below a line ends the block, whatever
follows it. As it looks for a fence behind some content first, the earliest fence ends the block unless
it stands right below the opening one and another fence follows it. -/

namespace MarkdownTidy.FrontMatter

open Bytes

/-- Three hyphens or three points, then blanks, then a carriage return or nothing. -/
def IsFence (l : Bytes) : Prop :=
  (l.take 3 = utf8 "---" ∨ l.take 3 = utf8 "...") ∧
    ((l.drop 3).dropWhile isBlankByte = [] ∨ (l.drop 3).dropWhile isBlankByte = [13])

instance (l : Bytes) : Decidable (IsFence l) := by unfold IsFence; infer_instance

def withoutByteOrderMark (s : Bytes) : Bytes :=
  if s.take 3 = [0xEF, 0xBB, 0xBF] then s.drop 3 else s

def IsOpening (l : Bytes) : Prop :=
  (withoutByteOrderMark l).take 3 = utf8 "---" ∧ IsFence (withoutByteOrderMark l)

instance (l : Bytes) : Decidable (IsOpening l) := by unfold IsOpening; infer_instance

/-- Three hyphens or three points, then blanks, then the end of the line or of the text. -/
def IsFenceLine (l : Bytes) : Prop :=
  (l.take 3 = utf8 "---" ∨ l.take 3 = utf8 "...") ∧
    (l.drop 3).dropWhile isBlankByte ∈ [[], utf8 "\n", utf8 "\r\n"]

instance (l : Bytes) : Decidable (IsFenceLine l) := inferInstanceAs (Decidable (_ ∧ _))

/-- Three hyphens, a byte order mark in front aside, then blanks, then the end of the line. -/
def IsOpeningLine (l : Bytes) : Prop :=
  (withoutByteOrderMark l).take 3 = utf8 "---" ∧
    ((withoutByteOrderMark l).drop 3).dropWhile isBlankByte ∈ [utf8 "\n", utf8 "\r\n"]

instance (l : Bytes) : Decidable (IsOpeningLine l) := inferInstanceAs (Decidable (_ ∧ _))

/-- A text without the line end that it ends with. -/
def withoutLineEnd : Bytes → Bytes
  | [] | [10] | [13, 10] => []
  | c :: s => c :: withoutLineEnd s

lemma utf8_hyphens : utf8 "---" = [45, 45, 45] := by decide

lemma utf8_points : utf8 "..." = [46, 46, 46] := by decide

variable {l s x body : Bytes}

/-! ### One line -/

lemma afterLineEnd?_line (h : newline ∉ l) (x : Bytes) :
    afterLineEnd? (l ++ newline :: x) = if l = [] ∨ l = [13] then some x else none := by
  match l with
  | [] => rfl
  | [c] =>
    have hc : c ≠ 10 := fun e => h (by simp [e, newline])
    by_cases h13 : c = 13 <;> simp [afterLineEnd?, newline, hc, h13]
  | c :: d :: l =>
    have hc : c ≠ 10 := fun e => h (by simp [e, newline])
    have hd : d ≠ 10 := fun e => h (by simp [e, newline])
    simp [afterLineEnd?, hc, hd]

lemma dropWhile_isBlankByte_line (l x : Bytes) :
    (l ++ newline :: x).dropWhile isBlankByte = l.dropWhile isBlankByte ++ newline :: x := by
  rw [List.dropWhile_append]
  split
  · rename_i h
    rw [List.isEmpty_iff.mp h]
    rfl
  · rfl

lemma take_line {m : Bytes} (hm : newline ∉ m) :
    (l ++ newline :: x).take m.length = m ↔ l.take m.length = m := by
  rcases Nat.lt_or_ge l.length m.length with hlt | hge
  · obtain ⟨k, hk⟩ : ∃ k, m.length - l.length = k + 1 := ⟨m.length - l.length - 1, by omega⟩
    have ht : (l ++ newline :: x).take m.length ≠ m := by
      intro he
      exact hm (he ▸ by simp [List.take_append, hk])
    have hs : l.take m.length ≠ m := by
      intro he
      have := congrArg List.length he
      simp at this
      omega
    simp only [ht, hs]
  · rw [List.take_append_of_le_length hge]

lemma afterClosing?_eq_none (h : s.take 3 ≠ utf8 "---") (h' : s.take 3 ≠ utf8 "...") :
    afterClosing? s = none := by
  unfold afterClosing?
  split
  · simp [utf8_hyphens] at h
  · simp [utf8_points] at h'
  · rfl

lemma afterClosing?_eq (h : s.take 3 = utf8 "---" ∨ s.take 3 = utf8 "...")
    (hs : (s.drop 3).dropWhile isBlankByte ≠ []) :
    afterClosing? s = afterLineEnd? ((s.drop 3).dropWhile isBlankByte) := by
  have hd := List.take_append_drop 3 s
  generalize s.drop 3 = t at hd hs ⊢
  cases hb : t.dropWhile isBlankByte with
  | nil => contradiction
  | cons c u =>
    rcases h with h | h
    · rw [← hd, h, utf8_hyphens]
      simp [afterClosing?, hb]
    · rw [← hd, h, utf8_points]
      simp [afterClosing?, hb]

lemma afterClosing?_line (h : newline ∉ l) (x : Bytes) :
    afterClosing? (l ++ newline :: x) = if IsFence l then some x else none := by
  have hh : (l ++ newline :: x).take 3 = utf8 "---" ↔ l.take 3 = utf8 "---" :=
    take_line (m := utf8 "---") (by decide)
  have hp : (l ++ newline :: x).take 3 = utf8 "..." ↔ l.take 3 = utf8 "..." :=
    take_line (m := utf8 "...") (by decide)
  by_cases hm : l.take 3 = utf8 "---" ∨ l.take 3 = utf8 "..."
  · have hlen : (l.take 3).length = 3 := by rcases hm with hm | hm <;> rw [hm] <;> rfl
    rw [List.length_take] at hlen
    have hdrop : ((l ++ newline :: x).drop 3).dropWhile isBlankByte =
        (l.drop 3).dropWhile isBlankByte ++ newline :: x := by
      rw [List.drop_append_of_le_length (by omega), dropWhile_isBlankByte_line]
    have hn : newline ∉ (l.drop 3).dropWhile isBlankByte := fun hmem =>
      h (List.mem_of_mem_drop ((List.dropWhile_suffix _).mem hmem))
    rw [afterClosing?_eq (by rwa [hh, hp]) (by simp [hdrop]), hdrop, afterLineEnd?_line hn]
    simp only [IsFence, hm, true_and]
  · rw [not_or] at hm
    rw [afterClosing?_eq_none (by rw [ne_eq, hh]; exact hm.1) (by rw [ne_eq, hp]; exact hm.2),
      if_neg fun hf => not_or.mpr hm hf.1]

lemma withoutByteOrderMark_line (x : Bytes) :
    withoutByteOrderMark (l ++ newline :: x) = withoutByteOrderMark l ++ newline :: x := by
  have hm : (l ++ newline :: x).take 3 = [0xEF, 0xBB, 0xBF] ↔ l.take 3 = [0xEF, 0xBB, 0xBF] :=
    take_line (m := [0xEF, 0xBB, 0xBF]) (by decide)
  simp only [withoutByteOrderMark, hm]
  split
  · rename_i h
    have hlen := congrArg List.length h
    rw [List.length_take] at hlen
    exact List.drop_append_of_le_length (by simp at hlen; omega)
  · rfl

lemma afterOpening?_eq (s : Bytes) :
    afterOpening? s = if (withoutByteOrderMark s).take 3 = utf8 "---" then
      afterLineEnd? (((withoutByteOrderMark s).drop 3).dropWhile isBlankByte) else none := by
  have hne (t : Bytes) (h : ∀ r, t = 45 :: 45 :: 45 :: r → False) : t.take 3 ≠ utf8 "---" := by
    intro ht
    exact h _ (by rw [← List.take_append_drop 3 t, ht, utf8_hyphens]; rfl)
  unfold afterOpening?
  dsimp only
  split
  · rename_i h
    split at h <;> (subst h; rw [utf8_hyphens]; rfl)
  · rename_i h
    rw [if_neg]
    apply hne
    split at h
    · exact h
    · rename_i hs
      rw [withoutByteOrderMark, if_neg]
      · exact h
      · intro ht
        exact hs _ (by rw [← List.take_append_drop 3 s, ht]; rfl)

lemma afterOpening?_line (h : newline ∉ l) (x : Bytes) :
    afterOpening? (l ++ newline :: x) = if IsOpening l then some x else none := by
  have hn : newline ∉ withoutByteOrderMark l := by
    unfold withoutByteOrderMark
    split
    · exact fun hm => h (List.mem_of_mem_drop hm)
    · exact h
  have hh (t : Bytes) : (t ++ newline :: x).take 3 = utf8 "---" ↔ t.take 3 = utf8 "---" :=
    take_line (m := utf8 "---") (by decide)
  rw [afterOpening?_eq, withoutByteOrderMark_line]
  by_cases ht : (withoutByteOrderMark l).take 3 = utf8 "---"
  · have hne : ((withoutByteOrderMark l ++ newline :: x).drop 3).dropWhile isBlankByte ≠ [] := by
      have hlen := congrArg List.length ht
      rw [List.length_take, show (utf8 "---").length = 3 from rfl] at hlen
      rw [List.drop_append_of_le_length (by omega), dropWhile_isBlankByte_line]
      simp
    rw [if_pos ((hh _).mpr ht), ← afterClosing?_eq (.inl ((hh _).mpr ht)) hne,
      afterClosing?_line hn]
    simp only [IsOpening, ht, true_and]
  · rw [if_neg fun h => ht ((hh _).mp h), if_neg fun ho => ht ho.1]

lemma findContent?_line (h : newline ∉ l) (hx : afterClosing? x = none) :
    findContent? (l ++ newline :: x) = (findContent? x).map fun c => (l ++ newline :: c.1, c.2) := by
  induction l with
  | nil => simp [findContent?, afterLineEnd?, newline, hx]
  | cons c l ih =>
    rw [List.mem_cons, not_or] at h
    have hn : (afterLineEnd? (c :: l ++ newline :: x)).bind afterClosing? = none := by
      rw [afterLineEnd?_line (by simp [h.1, h.2])]
      split <;> simp [hx]
    rw [List.cons_append] at hn ⊢
    rw [findContent?, hn, ih h.2]
    cases findContent? x <;> rfl

lemma withoutLineEnd_cons {c : UInt8} (h : c :: s ≠ [10]) (h' : c :: s ≠ [13, 10]) :
    withoutLineEnd (c :: s) = c :: withoutLineEnd s := by
  rw [withoutLineEnd]
  · simpa using h
  · simpa using h'

lemma withoutLineEnd_append (l : Bytes) (hs : s ≠ []) :
    withoutLineEnd (l ++ newline :: s) = l ++ newline :: withoutLineEnd s := by
  induction l with
  | nil => exact withoutLineEnd_cons (by simp [hs]) (by simp [newline])
  | cons c l ih =>
    rw [List.cons_append, withoutLineEnd_cons, ih, List.cons_append]
    · simp
    · cases l <;> simp [newline, hs]

lemma findContent?_last (h : newline ∉ l) (hx : afterClosing? x = some body) :
    findContent? (l ++ newline :: x) = some (withoutLineEnd (l ++ [newline]), body) := by
  induction l with
  | nil => simp [findContent?, afterLineEnd?, newline, hx, withoutLineEnd]
  | cons c l ih =>
    rw [List.mem_cons, not_or] at h
    have ha := afterLineEnd?_line (l := c :: l) (by simp [h.1, h.2]) x
    rw [List.cons_append] at ha ⊢
    rw [findContent?, ha, ih h.2]
    by_cases hc : c :: l = [13]
    · obtain ⟨rfl, rfl⟩ := List.cons.inj hc
      simp [hx, withoutLineEnd, newline]
    · rw [List.cons_append, withoutLineEnd_cons]
      · simp [hc]
      · simp
      · intro he
        cases l <;> simp_all

/-! ### Lines with their ends -/

section

variable {m o f : Bytes} {ls between after : List Bytes}

lemma utf8_lineFeed : utf8 "\n" = [newline] := by decide

lemma utf8_lineEnd : utf8 "\r\n" = [13, newline] := by decide

lemma take_newline {mark : Bytes} (hm : mark.length = 3) (hn : newline ∉ mark) :
    (m ++ [newline]).take 3 = mark ↔ m.take 3 = mark := by
  have h := take_line (l := m) (x := []) hn
  rwa [hm] at h

lemma dropWhile_isBlankByte_newline (h : 3 ≤ m.length) :
    ((m ++ [newline]).drop 3).dropWhile isBlankByte = (m.drop 3).dropWhile isBlankByte ++ [newline] := by
  rw [List.drop_append_of_le_length h, dropWhile_isBlankByte_line]

lemma length_of_take {mark : Bytes} (h : m.take 3 = mark) (hm : mark.length = 3) : 3 ≤ m.length := by
  have hlen := congrArg List.length h
  rw [List.length_take] at hlen
  omega

lemma isFenceLine_newline : IsFenceLine (m ++ [newline]) ↔ IsFence m := by
  rw [IsFenceLine, IsFence, take_newline rfl (by decide), take_newline rfl (by decide)]
  refine and_congr_right fun hmark => ?_
  have hlen : 3 ≤ m.length := hmark.elim (length_of_take · rfl) (length_of_take · rfl)
  rw [dropWhile_isBlankByte_newline hlen, utf8_lineFeed, utf8_lineEnd]
  generalize (m.drop 3).dropWhile isBlankByte = x
  simp [List.append_eq_cons_iff, newline]

lemma isOpeningLine_newline : IsOpeningLine (m ++ [newline]) ↔ IsOpening m := by
  rw [IsOpeningLine, IsOpening, withoutByteOrderMark_line, take_newline rfl (by decide)]
  generalize withoutByteOrderMark m = m
  refine and_congr_right fun hmark => ?_
  rw [dropWhile_isBlankByte_newline (length_of_take hmark rfl), utf8_lineFeed, utf8_lineEnd, IsFence]
  generalize (m.drop 3).dropWhile isBlankByte = x
  simp [List.append_eq_cons_iff, newline, hmark]

lemma afterClosing?_lines (h : lines s = l :: ls) :
    afterClosing? s = if IsFenceLine l then some ls.flatten else none := by
  obtain ⟨rfl, -, ⟨m, hm, rfl⟩ | ⟨hl, -, rfl⟩⟩ := lines_eq_cons h
  · simpa [isFenceLine_newline] using afterClosing?_line hm ls.flatten
  · rw [List.flatten_nil, List.append_nil]
    by_cases hmark : l.take 3 = utf8 "---" ∨ l.take 3 = utf8 "..."
    · have hn : newline ∉ (l.drop 3).dropWhile isBlankByte := fun hmem =>
        hl (List.mem_of_mem_drop ((List.dropWhile_suffix _).mem hmem))
      simp only [IsFenceLine, hmark, true_and]
      by_cases hb : (l.drop 3).dropWhile isBlankByte = []
      · have hd := List.take_append_drop 3 l
        rw [if_pos (by simp [hb])]
        rcases hmark with hmark | hmark <;> rw [← hd, hmark] <;>
          simp [utf8_hyphens, utf8_points, afterClosing?, hb]
      · rw [afterClosing?_eq hmark hb]
        generalize (l.drop 3).dropWhile isBlankByte = x at hn hb
        rw [if_neg]
        · unfold afterLineEnd?
          split <;> simp_all [newline]
        · rw [utf8_lineFeed, utf8_lineEnd]
          rintro hx
          simp only [List.mem_cons, List.not_mem_nil, or_false, hb, false_or] at hx
          rcases hx with rfl | rfl <;> simp at hn
    · rw [if_neg fun hf => hmark hf.1]
      rw [not_or] at hmark
      exact afterClosing?_eq_none hmark.1 hmark.2

lemma afterOpening?_lines (h : lines s = o :: ls) (ho : IsOpeningLine o) :
    afterOpening? s = some ls.flatten := by
  obtain ⟨rfl, -, ⟨m, hm, rfl⟩ | ⟨hn, -, rfl⟩⟩ := lines_eq_cons h
  · rw [isOpeningLine_newline] at ho
    simpa [ho] using afterOpening?_line hm ls.flatten
  · have hmem : newline ∈ ((withoutByteOrderMark o).drop 3).dropWhile isBlankByte := by
      have h2 := ho.2
      rw [utf8_lineFeed, utf8_lineEnd] at h2
      generalize ((withoutByteOrderMark o).drop 3).dropWhile isBlankByte = x at h2
      simp only [List.mem_cons, List.not_mem_nil, or_false] at h2
      rcases h2 with rfl | rfl <;> simp
    have hmem := List.mem_of_mem_drop ((List.dropWhile_suffix _).mem hmem)
    refine absurd ?_ hn
    rw [withoutByteOrderMark] at hmem
    split at hmem
    · exact List.mem_of_mem_drop hmem
    · exact hmem

/-! ### The search -/

lemma findContent?_eq_none (h : newline ∉ l) : findContent? l = none := by
  induction l with
  | nil => rfl
  | cons c l ih =>
    have hend : afterLineEnd? (c :: l) = none := by
      unfold afterLineEnd?
      split <;> simp_all [newline]
    rw [findContent?, hend, ih fun hm => h (List.mem_cons_of_mem c hm)]
    rfl

lemma findContent?_lines (h : lines s = l :: ls) :
    findContent? s =
      match afterClosing? ls.flatten with
      | some body => some (withoutLineEnd l, body)
      | none => (findContent? ls.flatten).map fun c => (l ++ c.1, c.2) := by
  obtain ⟨rfl, -, ⟨m, hm, rfl⟩ | ⟨hl, -, rfl⟩⟩ := lines_eq_cons h
  · rw [List.append_assoc, List.singleton_append]
    cases hx : afterClosing? ls.flatten with
    | some body => exact findContent?_last hm hx
    | none =>
      rw [findContent?_line hm hx]
      simp
  · simpa [afterClosing?, findContent?] using findContent?_eq_none hl

lemma findContent?_eq_some (h : lines s = l :: (between ++ f :: after))
    (hb : ∀ m ∈ between, ¬ IsFenceLine m) (hf : IsFenceLine f) :
    findContent? s = some (withoutLineEnd (l :: between).flatten, after.flatten) := by
  induction between generalizing s l with
  | nil =>
    obtain ⟨-, hrest, -⟩ := lines_eq_cons h
    rw [List.nil_append] at h hrest
    rw [findContent?_lines h, afterClosing?_lines hrest, if_pos hf]
    simp
  | cons m between ih =>
    rw [List.forall_mem_cons] at hb
    obtain ⟨-, hrest, hend⟩ := lines_eq_cons h
    rw [List.cons_append] at h hrest
    rw [findContent?_lines h, afterClosing?_lines hrest, if_neg hb.1]
    simp only [ih hrest hb.2, Option.map_some]
    obtain ⟨k, -, rfl⟩ | ⟨-, -, hnil⟩ := hend
    · have hne : (m :: between).flatten ≠ [] := by
        obtain ⟨-, -, ⟨k, -, rfl⟩ | ⟨-, hm, -⟩⟩ := lines_eq_cons hrest
        · simp
        · simp [hm]
      have hcut : withoutLineEnd ((k ++ [newline]) :: m :: between).flatten =
          k ++ [newline] ++ withoutLineEnd (m :: between).flatten := by
        simpa using withoutLineEnd_append k hne
      rw [hcut]
    · cases hnil

lemma findContent?_unfenced (h : lines s = ls) (hl : ∀ m ∈ ls.tail, ¬ IsFenceLine m) :
    findContent? s = none := by
  induction ls generalizing s with
  | nil =>
    have hs := flatten_lines s
    rw [h, List.flatten_nil] at hs
    rw [← hs]
    rfl
  | cons l ls ih =>
    obtain ⟨-, hrest, -⟩ := lines_eq_cons h
    rw [List.tail_cons] at hl
    have hclosing : afterClosing? ls.flatten = none := by
      cases ls with
      | nil => rfl
      | cons m ls => rw [afterClosing?_lines hrest, if_neg (hl m List.mem_cons_self)]
    rw [findContent?_lines h, hclosing, ih hrest fun m hm => hl m (List.mem_of_mem_tail hm)]
    rfl

/-! ### The block -/

lemma block?_eq_some (h : lines s = o :: (between ++ f :: after)) (ho : IsOpeningLine o)
    (hne : between ≠ []) (hb : ∀ m ∈ between.tail, ¬ IsFenceLine m) (hf : IsFenceLine f) :
    block? s = some ⟨some (withoutLineEnd between.flatten), after.flatten⟩ := by
  obtain ⟨l, between, rfl⟩ := List.exists_cons_of_ne_nil hne
  obtain ⟨-, hrest, -⟩ := lines_eq_cons h
  rw [block?, afterOpening?_lines h ho]
  simp only [findContent?_eq_some hrest hb hf]

lemma block?_unfenced (h : lines s = o :: ls) (ho : IsOpeningLine o)
    (hl : ∀ m ∈ ls.tail, ¬ IsFenceLine m) :
    block? s = if ∃ m ∈ ls.head?, IsFenceLine m then some ⟨none, ls.tail.flatten⟩ else none := by
  obtain ⟨-, hrest, -⟩ := lines_eq_cons h
  rw [block?, afterOpening?_lines h ho]
  simp only [findContent?_unfenced hrest hl]
  cases ls with
  | nil => rfl
  | cons m ls =>
    rw [afterClosing?_lines hrest]
    simp only [List.head?_cons, Option.mem_some_iff, exists_eq_left', List.tail_cons]
    split <;> rfl

lemma exists_first_fence (h : ∃ l ∈ ls, IsFenceLine l) :
    ∃ between f after, ls = between ++ f :: after ∧ (∀ l ∈ between, ¬ IsFenceLine l) ∧
      IsFenceLine f := by
  obtain ⟨f, hfind⟩ := Option.isSome_iff_exists.mp
    (List.find?_isSome (p := fun l => decide (IsFenceLine l)).mpr (by simpa using h))
  obtain ⟨hf, between, after, rfl, hb⟩ := List.find?_eq_some_iff_append.mp hfind
  exact ⟨between, f, after, rfl, by simpa using hb, by simpa using hf⟩

lemma block?_isSome_lines (h : lines s = o :: ls) (ho : IsOpeningLine o) :
    (block? s).isSome = true ↔ ∃ l ∈ ls, IsFenceLine l := by
  by_cases hf : ∃ l ∈ ls.tail, IsFenceLine l
  · refine iff_of_true ?_ (hf.imp fun l hl => ⟨List.mem_of_mem_tail hl.1, hl.2⟩)
    cases ls with
    | nil => simp at hf
    | cons m ls =>
      obtain ⟨between, f, after, rfl, hb, hf⟩ := exists_first_fence hf
      rw [block?_eq_some h ho (List.cons_ne_nil m between) hb hf]
      rfl
  · rw [block?_unfenced h ho (by simpa using hf)]
    cases ls with
    | nil => simp
    | cons m ls => by_cases hm : IsFenceLine m <;> simp_all

end

/-! ### Texts that end in a line feed -/

lemma block?_isSome_iff (hs : s.getLast? = some newline) :
    (block? s).isSome = true ↔ IsOpening (firstLine s) ∧ ∃ l ∈ (Bytes.split newline s).tail, IsFence l := by
  obtain ⟨ls, hne, hl, rfl⟩ := exists_unlines hs
  obtain ⟨l, ls, rfl⟩ := List.exists_cons_of_ne_nil hne
  have hsplit := split_unlines hl
  have htail : (∃ m ∈ (Bytes.split newline (unlines (l :: ls))).tail, IsFence m) ↔ ∃ m ∈ ls, IsFence m := by
    rw [hsplit]
    simp [show ¬ IsFence [] by decide]
  have hfirst : firstLine (unlines (l :: ls)) = l := by
    rw [firstLine, hsplit]
    rfl
  rw [htail, hfirst]
  by_cases ho : IsOpening l
  · rw [block?_isSome_lines (lines_unlines hl) (isOpeningLine_newline.mpr ho)]
    simp [ho, isFenceLine_newline]
  · rw [List.forall_mem_cons] at hl
    rw [block?, unlines_cons, afterOpening?_line hl.1]
    simp [ho]

lemma block?_fenced (hs : s.getLast? = some newline) (hf : ∀ l ∈ Bytes.split newline s, ¬ IsFence l)
    (rest : Bytes) :
    block? (utf8 "---\n" ++ s ++ utf8 "---\n" ++ rest) = some ⟨some (withoutLineEnd s), rest⟩ := by
  have hlines : lines (utf8 "---\n" ++ s ++ utf8 "---\n" ++ rest) =
      utf8 "---\n" :: (lines s ++ utf8 "---\n" :: lines rest) := by
    have hfence : ∀ t, lines (utf8 "---\n" ++ t) = utf8 "---\n" :: lines t :=
      lines_append_newline (by decide : newline ∉ utf8 "---")
    rw [List.append_assoc, List.append_assoc, hfence, lines_append (.inr hs), hfence]
  have hunfenced : ∀ l ∈ lines s, ¬ IsFenceLine l := by
    obtain ⟨ls, -, hl, rfl⟩ := exists_unlines hs
    rw [split_unlines hl] at hf
    rw [lines_unlines hl]
    simpa [isFenceLine_newline] using fun l hm => hf l (List.mem_append_left _ hm)
  have hne : lines s ≠ [] := by
    intro hnil
    rw [← flatten_lines s, hnil] at hs
    cases hs
  have hblock := block?_eq_some hlines (by decide) hne
    (fun l hl => hunfenced l (List.mem_of_mem_tail hl)) (by decide)
  rwa [flatten_lines, flatten_lines] at hblock

/-! ### Where front matter ends -/

def contentOf (ls : List Bytes) : Option Bytes :=
  if ls = [] then none else some (withoutLineEnd ls.flatten)

variable {o : Bytes} {ls : List Bytes}

/-- The text after front matter that could be read. -/
def Split.body? : Split → Option Bytes
  | .absent | .unreadable _ => none
  | .empty body | .present _ body => some body

lemma split_eq_absent_iff : split s = .absent ↔ block? s = none := by
  unfold split
  split
  · rename_i h
    simp [h]
  · rename_i h
    simp [h]
  · rename_i h
    refine iff_of_false (fun hs => ?_) (by simp [h])
    split at hs
    · cases hs
    · split at hs
      · cases hs
      · cases hs
      · split at hs <;> cases hs

lemma body?_split {content : Option Bytes} (h : block? s = some ⟨content, body⟩) :
    ∀ b ∈ (split s).body?, b = body := by
  rw [split, h]
  cases content with
  | none => simp [Split.body?]
  | some content =>
    simp only
    split
    · simp [Split.body?]
    · split
      · simp [Split.body?]
      · simp [Split.body?]
      · split <;> simp [Split.body?]

lemma split_eq_absent_iff_lines (h : lines s = o :: ls) (ho : IsOpeningLine o) :
    split s = .absent ↔ ∀ l ∈ ls, ¬ IsFenceLine l := by
  rw [split_eq_absent_iff, ← Option.not_isSome_iff_eq_none, block?_isSome_lines h ho]
  simp

/-- Below an opening fence, a text without another fence has no front matter. Otherwise the lines up to
the earliest fence are the block and the text after it is the body, exactly when there are such lines or
no fence follows. Else the block goes on to the second fence. -/
theorem split_first_fence {src opening : Bytes} {rest : List Bytes} (hsrc : lines src = opening :: rest)
    (hopening : IsOpeningLine opening) :
    ((∀ l ∈ rest, ¬ IsFenceLine l) → split src = .absent) ∧
    ∀ between fence after, rest = between ++ fence :: after → (∀ l ∈ between, ¬ IsFenceLine l) →
      IsFenceLine fence →
      split src ≠ .absent ∧
      (block? src = some ⟨contentOf between, after.flatten⟩ ↔
        between ≠ [] ∨ ∀ l ∈ after, ¬ IsFenceLine l) ∧
      (between ≠ [] ∨ (∀ l ∈ after, ¬ IsFenceLine l) →
        ∀ body ∈ (split src).body?, body = after.flatten) ∧
      ∀ inner second behind, between = [] → after = inner ++ second :: behind →
        (∀ l ∈ inner, ¬ IsFenceLine l) → IsFenceLine second →
        block? src = some ⟨some (withoutLineEnd (fence :: inner).flatten), behind.flatten⟩ := by
  refine ⟨(split_eq_absent_iff_lines hsrc hopening).mpr, ?_⟩
  rintro between fence after rfl hb hf
  have hpresent : split src ≠ .absent := fun habsent =>
    (split_eq_absent_iff_lines hsrc hopening).mp habsent fence (by simp) hf
  have hrun : ∀ inner second behind, between = [] → after = inner ++ second :: behind →
      (∀ l ∈ inner, ¬ IsFenceLine l) → IsFenceLine second →
      block? src = some ⟨some (withoutLineEnd (fence :: inner).flatten), behind.flatten⟩ := by
    rintro inner second behind rfl rfl hi hs
    exact block?_eq_some hsrc hopening (List.cons_ne_nil fence inner) hi hs
  have hfirst : between ≠ [] ∨ (∀ l ∈ after, ¬ IsFenceLine l) →
      block? src = some ⟨contentOf between, after.flatten⟩ := by
    intro h
    by_cases hne : between = []
    · subst hne
      simpa [hf, contentOf] using block?_unfenced hsrc hopening (h.resolve_left (· rfl))
    · rw [contentOf, if_neg hne]
      exact block?_eq_some hsrc hopening hne (fun l hl => hb l (List.mem_of_mem_tail hl)) hf
  refine ⟨hpresent, ⟨fun hblock => ?_, hfirst⟩, fun h => body?_split (hfirst h), hrun⟩
  -- An empty block with a fence below it: content up to that fence is found first.
  by_contra! h
  obtain ⟨inner, second, behind, hafter, hi, hs⟩ := exists_first_fence h.2
  rw [hrun inner second behind h.1 hafter hi hs] at hblock
  simp [h.1, contentOf] at hblock

/-- A byte order mark, blanks behind fences, an empty line in the block, and a fence in the body. -/
theorem split_first_fence_marked :
    let src := utf8 "\ufeff--- \r\na: b\n\n... \nText\n---"
    lines src = [utf8 "\ufeff--- \r\n", utf8 "a: b\n", utf8 "\n", utf8 "... \n", utf8 "Text\n",
      utf8 "---"] ∧
    block? src = some ⟨some (utf8 "a: b\n"), utf8 "Text\n---"⟩ ∧
    (split src).body? = some (utf8 "Text\n---") := by
  intro src
  have hlines : lines src = utf8 "\ufeff--- \r\n" ::
      ([utf8 "a: b\n", utf8 "\n"] ++ utf8 "... \n" :: [utf8 "Text\n", utf8 "---"]) := by decide
  obtain ⟨-, hblock, hbody, -⟩ := (split_first_fence hlines (by decide)).2 _ _ _ rfl (by decide) (by decide)
  obtain ⟨b, hb⟩ : ∃ b, (split src).body? = some b := Option.isSome_iff_exists.mp (by decide +kernel)
  refine ⟨hlines, hblock.mpr (.inl (by decide)), ?_⟩
  rw [hb, hbody (.inl (by decide)) b hb]
  decide

/-- An empty block with a fence somewhere below it: the block runs on to that fence, and the text in
between is taken out of the body. -/
theorem split_empty_block :
    let src := utf8 "---\n---\nkey: value\n---\nrest\n"
    lines src = [utf8 "---\n", utf8 "---\n", utf8 "key: value\n", utf8 "---\n", utf8 "rest\n"] ∧
    IsOpeningLine (utf8 "---\n") ∧ IsFenceLine (utf8 "---\n") ∧
    block? src = some ⟨some (utf8 "---\nkey: value"), utf8 "rest\n"⟩ ∧
    ∃ root, split src = .present root (utf8 "rest\n") ∧ render root = utf8 "key: value\n" := by
  intro src
  have hsplit : (match split src with
      | .present root body => some (body, render root)
      | _ => none) = some (utf8 "rest\n", utf8 "key: value\n") := by decide +kernel
  refine ⟨by decide, by decide, by decide, by decide, ?_⟩
  cases hs : split src with
  | present root body =>
    obtain ⟨rfl, hroot⟩ : body = utf8 "rest\n" ∧ render root = utf8 "key: value\n" := by
      simpa [hs] using hsplit
    exact ⟨root, rfl, hroot⟩
  | _ => simp [hs] at hsplit

end MarkdownTidy.FrontMatter
