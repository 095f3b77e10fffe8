import Mathlib.Tactic.Common
import MarkdownTidy.Document.Continuing
import MarkdownTidy.Proofs.Bytes.Cutting
import MarkdownTidy.Writer.Code

/-! Code between fences. The writer makes the fence longer than any run of marks that begins a line behind spaces. The
reader lets tabs stand in front of a closing fence as well, but a tab at the margin takes four columns, which is too far
for a fence. -/

namespace MarkdownTidy.Writer

/-! ### Closing fences -/

/-- A line at the left margin that closes a fence of `n` marks: indentation below four columns, at least as many marks,
then blanks. -/
def ClosesFence (mark : UInt8) (n : Nat) (l : Bytes) : Prop :=
  ∃ blanks run rest, l = blanks ++ (List.replicate run mark ++ rest) ∧ (∀ b ∈ blanks, b = byte ' ' ∨ b = byte '\t') ∧
    Indent.column blanks < 4 ∧ n ≤ run ∧ Bytes.isBlank rest = true

def isIndent (b : UInt8) : Bool := b == byte ' ' || b == byte '\t'

variable {mark : UInt8} {n : Nat} {l : Bytes}

def nextColumn (v : Nat) (b : UInt8) : Nat := if b == byte '\t' then v + Indent.tabWidth v else v + 1

lemma measure_eq (l : Bytes) :
    Indent.measure l 0 = (Indent.column (l.takeWhile isIndent), (l.takeWhile isIndent).length) := by
  have hgo : ∀ w k, Indent.measure.go 0 w k l =
      ((l.takeWhile isIndent).foldl nextColumn w, k + (l.takeWhile isIndent).length) := by
    induction l with
    | nil => exact fun w k => rfl
    | cons b l ih =>
      intro w k
      rw [Indent.measure.go, List.takeWhile_cons, isIndent]
      by_cases hs : b = byte ' '
      · subst hs
        have hnext : nextColumn w (byte ' ') = w + 1 := rfl
        simp [ih, hnext, Nat.add_assoc, Nat.add_comm 1]
      · by_cases ht : b = byte '\t'
        · subst ht
          have hspace : (byte '\t' == byte ' ') = false := by decide
          have hnext : nextColumn w (byte '\t') = w + Indent.tabWidth w := rfl
          simp [ih, hspace, hnext, Nat.add_assoc, Nat.add_comm 1]
        · simp [hs, ht]
  have h := hgo 0 0
  rwa [Nat.zero_add] at h

def closesFence (mark : UInt8) (n : Nat) (l : Bytes) : Bool :=
  let (width, count) := Indent.measure l 0
  let run := ((l.drop count).takeWhile (· == mark)).length
  width < 4 && run ≥ n && Bytes.isBlank (l.drop (count + run))

lemma closesFence_iff (hm : Bytes.isSpace mark = false) (hn : 0 < n) : closesFence mark n l = true ↔ ClosesFence mark n l := by
  simp only [closesFence, measure_eq, Bytes.drop_length_takeWhile, Bool.and_eq_true, decide_eq_true_eq, ← List.drop_drop]
  constructor
  · rintro ⟨⟨hwidth, hrun⟩, hblank⟩
    refine ⟨l.takeWhile isIndent, ((l.dropWhile isIndent).takeWhile (· == mark)).length,
      (l.dropWhile isIndent).dropWhile (· == mark), ?_, fun b hb => ?_, hwidth, hrun, hblank⟩
    · have hmarks : List.replicate ((l.dropWhile isIndent).takeWhile (· == mark)).length mark =
          (l.dropWhile isIndent).takeWhile (· == mark) :=
        (List.eq_replicate_of_mem fun b hb => by simpa using List.mem_takeWhile_imp hb).symm
      rw [hmarks, List.takeWhile_append_dropWhile, List.takeWhile_append_dropWhile]
    · simpa [isIndent] using List.mem_takeWhile_imp hb
  · rintro ⟨blanks, run, rest, rfl, hblanks, hwidth, hrun, hrest⟩
    obtain ⟨m, rfl⟩ : ∃ m, run = m + 1 := ⟨run - 1, by omega⟩
    have hindent : ∀ b ∈ blanks, isIndent b = true := by simpa [isIndent] using hblanks
    have hmark : isIndent mark = false := by
      rw [isIndent, Bool.or_eq_false_iff, beq_eq_false_iff_ne, beq_eq_false_iff_ne]
      constructor <;> rintro rfl <;> exact absurd hm (by decide)
    have htake : (blanks ++ (List.replicate (m + 1) mark ++ rest)).takeWhile isIndent = blanks := by
      rw [List.takeWhile_append_of_pos hindent, List.replicate_succ, List.cons_append,
        List.takeWhile_cons_of_neg (by simp [hmark]), List.append_nil]
    have hdrop : (blanks ++ (List.replicate (m + 1) mark ++ rest)).dropWhile isIndent = List.replicate (m + 1) mark ++ rest := by
      rw [List.dropWhile_append_of_pos hindent, List.replicate_succ, List.cons_append,
        List.dropWhile_cons_of_neg (by simp [hmark])]
    have hhead : rest.head? ≠ some mark := by
      intro h
      have hspace := List.all_eq_true.mp hrest mark (List.mem_of_head? h)
      rw [hm] at hspace
      cases hspace
    rw [htake, hdrop, ← Bytes.drop_length_takeWhile, Bytes.length_run hhead, Bytes.drop_run]
    exact ⟨⟨hwidth, hrun⟩, hrest⟩

theorem fencedCode_close_iff {c : LineCursor} (hm : Bytes.isSpace mark = false) (hn : 0 < n) (hc : c.column = 0) (f : Frame)
    (indent : Nat) : (∃ f' d, Continuing.fencedCode f mark indent n c = .close f' d) ↔ ClosesFence mark n c.rest := by
  rw [← closesFence_iff hm hn, closesFence]
  simp only [Continuing.fencedCode, hc]
  split
  · rename_i h
    exact iff_of_true ⟨_, _, rfl⟩ h
  · rename_i h
    exact iff_of_false (by rintro ⟨f', d, ⟨⟩⟩) h

lemma le_foldl_nextColumn (bs : Bytes) (v : Nat) : v ≤ bs.foldl nextColumn v := by
  induction bs generalizing v with
  | nil => exact le_rfl
  | cons b bs ih =>
    refine le_trans ?_ (ih _)
    rw [nextColumn]
    split
    · exact Nat.le_add_right _ _
    · exact Nat.le_succ v

lemma tab_notMem_of_column_lt {bs : Bytes} (h : Indent.column bs < 4) : byte '\t' ∉ bs := by
  have hfold : ∀ (bs : Bytes) (v : Nat), bs.foldl nextColumn v < 4 → byte '\t' ∉ bs := by
    intro bs
    induction bs with
    | nil => exact fun _ _ => List.not_mem_nil
    | cons b bs ih =>
      intro v hlt hmem
      rw [List.foldl_cons] at hlt
      rcases List.mem_cons.mp hmem with rfl | hmem
      · have hle := le_foldl_nextColumn bs (nextColumn v (byte '\t'))
        rw [nextColumn, if_pos (by simp), Indent.tabWidth] at hle hlt
        omega
      · exact ih _ hlt hmem
  exact hfold bs 0 h

lemma ClosesFence.le_leadingRun (h : ClosesFence mark n l) (hm : mark ≠ byte ' ') (hn : 0 < n) : n ≤ leadingRun mark l := by
  obtain ⟨blanks, run, rest, rfl, hblanks, hwidth, hrun, -⟩ := h
  have htab := tab_notMem_of_column_lt hwidth
  have hspaces : ∀ b ∈ blanks, (b == byte ' ') = true := by
    intro b hb
    rcases hblanks b hb with rfl | rfl
    · rfl
    · exact absurd hb htab
  obtain ⟨m, rfl⟩ : ∃ m, run = m + 1 := ⟨run - 1, by omega⟩
  rw [leadingRun, List.dropWhile_append_of_pos hspaces, List.replicate_succ, List.cons_append,
    List.dropWhile_cons_of_neg (by simpa using hm), ← List.cons_append, ← List.replicate_succ,
    List.takeWhile_append_of_pos (by simp), List.length_append, List.length_replicate]
  omega

lemma closesFence_replicate (mark : UInt8) (n : Nat) : ClosesFence mark n (List.replicate n mark) :=
  ⟨[], n, [], by simp, by simp, by decide, le_rfl, rfl⟩

/-! ### Fences -/

lemma le_foldl_max (l : List Nat) (a : Nat) : a ≤ l.foldl max a ∧ ∀ n ∈ l, n ≤ l.foldl max a := by
  induction l generalizing a with
  | nil => simp
  | cons n l ih =>
    obtain ⟨h, h'⟩ := ih (max a n)
    rw [List.foldl_cons, List.forall_mem_cons]
    exact ⟨by omega, by omega, h'⟩

lemma fence_spec (content : Bytes) (hm : mark ≠ byte ' ') :
    ∃ k, 3 ≤ k ∧ fence content mark = List.replicate k mark ∧
      ∀ l ∈ Bytes.split Bytes.newline content, ¬ ClosesFence mark k l := by
  refine ⟨_, ?_, rfl, fun l hl h => ?_⟩
  · split <;> omega
  · have hrun := h.le_leadingRun hm (by split <;> omega)
    have hlongest := (le_foldl_max ((Bytes.split Bytes.newline content).map (leadingRun mark)) 0).2 _ (List.mem_map_of_mem hl)
    split at hrun <;> omega

def endedContent (content : Bytes) : Bytes :=
  content ++ if content = [] ∨ content.getLast? = some Bytes.newline then [] else [Bytes.newline]

lemma exists_unlines_endedContent (content : Bytes) :
    ∃ body, Bytes.unlines body = endedContent content ∧ (∀ l ∈ body, Bytes.newline ∉ l) ∧
      ∀ l ∈ body, l ∈ Bytes.split Bytes.newline content := by
  obtain ⟨ls, t, hsplit, hcontent, hn⟩ := Bytes.exists_split content
  rw [hsplit, endedContent]
  by_cases ht : t = []
  · subst ht
    rw [List.append_nil] at hcontent
    refine ⟨ls, ?_, fun l hl => hn l (List.mem_append_left _ hl), fun l hl => List.mem_append_left _ hl⟩
    rw [if_pos, List.append_nil, hcontent]
    rcases List.eq_nil_or_concat ls with rfl | ⟨ls, l, rfl⟩
    · exact .inl hcontent
    · refine .inr ?_
      rw [hcontent, List.concat_eq_append, Bytes.unlines_append]
      simp
  · refine ⟨ls ++ [t], ?_, hn, fun l hl => hl⟩
    have htn : Bytes.newline ∉ t := hn t (by simp)
    rw [if_neg, hcontent, Bytes.unlines_append]
    · simp
    · rw [hcontent]
      rintro (hnil | hlast)
      · exact ht (List.append_eq_nil_iff.mp hnil).2
      · rw [List.getLast?_append_of_ne_nil _ ht] at hlast
        exact htn (List.mem_of_getLast? hlast)

lemma codeBlock_eq (content info : Bytes) :
    codeBlock content info =
      let f := fence content (if info.contains (byte '`') then byte '~' else byte '`')
      f ++ info ++ [Bytes.newline] ++ endedContent content ++ f := by
  simp only [codeBlock, endedContent, List.append_assoc]
  cases content <;> simp

lemma split_codeBlock {content info : Bytes} (hi : Bytes.newline ∉ info) (hm : mark ≠ Bytes.newline)
    (hmark : mark = if info.contains (byte '`') then byte '~' else byte '`') {k : Nat}
    (hk : fence content mark = List.replicate k mark)
    {body : List Bytes} (hbody : Bytes.unlines body = endedContent content) (hn : ∀ l ∈ body, Bytes.newline ∉ l) :
    Bytes.split Bytes.newline (codeBlock content info) =
      (List.replicate k mark ++ info) :: (body ++ [List.replicate k mark]) := by
  have hfence : Bytes.newline ∉ List.replicate k mark := fun h => hm (List.eq_of_mem_replicate h).symm
  have hjoin : codeBlock content info =
      Bytes.join [Bytes.newline] ((List.replicate k mark ++ info) :: (body ++ [List.replicate k mark])) := by
    refine List.append_cancel_right (?_ : _ ++ [Bytes.newline] = _ ++ [Bytes.newline])
    rw [← Bytes.unlines_eq_join (by simp), Bytes.unlines_cons, Bytes.unlines_append, codeBlock_eq, ← hmark, hk, hbody]
    simp
  rw [hjoin, Bytes.split_join (by simp)]
  intro l hl
  rw [List.mem_cons, List.mem_append, List.mem_singleton] at hl
  obtain rfl | hl | rfl := hl
  · rw [List.mem_append, not_or]
    exact ⟨hfence, hi⟩
  · exact hn l hl
  · exact hfence

end MarkdownTidy.Writer
