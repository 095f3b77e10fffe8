import MarkdownTidy.Document.Blocks
import MarkdownTidy.Proofs.Bytes.Cutting

/-! The line of a heading: marks, the text behind them, and the number signs that may close it. -/

namespace MarkdownTidy

lemma Bytes.slice_append (a t b : Bytes) : slice (a ++ (t ++ b)) a.length (a.length + t.length) = t := by
  simp [slice]

namespace Heading

def kept (t : Bytes) : Bytes :=
  let front := t.rdropWhile (· == byte '#')
  if front.getLast?.all Bytes.isSpace then front else t

variable {a t y : Bytes}

lemma kept_isPrefix (t : Bytes) : kept t <+: t := by
  rw [kept]
  split
  · exact List.rdropWhile_prefix _ _
  · exact List.prefix_refl _

lemma trimRight_kept : Bytes.trimRight (· == byte '#') (kept t) = [] ↔ kept t = [] := by
  rw [Bytes.trimRight_eq_rdropWhile, kept]
  split
  · rw [List.rdropWhile_idempotent]
  · rename_i h
    have hfront : t.rdropWhile (· == byte '#') ≠ [] := by
      intro he
      rw [he] at h
      exact h rfl
    refine ⟨fun he => absurd he hfront, ?_⟩
    rintro rfl
    exact absurd rfl hfront

lemma headD_drop {d : UInt8} (h : a.getLast? = some d) (y : Bytes) : ((a ++ y).drop (a.length - 1)).headD 0 = d := by
  obtain ⟨a, rfl⟩ := List.getLast?_eq_some_iff.mp h
  simp

/-- The text of a heading ends where what is kept of it does. -/
lemma headingStop_eq (ha : ∃ d, a.getLast? = some d ∧ Bytes.isSpace d = true) (hne : t ≠ [])
    (hlast : ∀ b ∈ t.getLast?, Bytes.isSpace b = false) :
    Opening.headingStop (a ++ (t ++ y)) a.length (a.length + t.length) = a.length + (kept t).length := by
  have hsplit := List.rdropWhile_append_rtakeWhile (p := (· == byte '#')) (l := t)
  have hclosing : (t.reverse.takeWhile (· == byte '#')).length = (t.rtakeWhile (· == byte '#')).length := by
    simp [List.rtakeWhile]
  have hpos := List.length_pos_iff.mpr hne
  rw [Opening.headingStop, if_neg (by omega), Bytes.slice_append, hclosing, kept]
  generalize t.rdropWhile (· == byte '#') = front at *
  generalize t.rtakeWhile (· == byte '#') = run at *
  have hoffset : a.length + t.length - run.length - 1 = (a ++ front).length - 1 := by
    rw [← hsplit]
    simp only [List.length_append]
    omega
  have hline : a ++ (t ++ y) = a ++ front ++ (run ++ y) := by
    rw [← hsplit]
    simp only [List.append_assoc]
  dsimp only
  rw [hoffset, hline]
  by_cases hfront : front.getLast?.all Bytes.isSpace = true
  · obtain ⟨d, hd, hspace⟩ : ∃ d, (a ++ front).getLast? = some d ∧ Bytes.isSpace d = true := by
      rw [List.getLast?_append]
      cases hg : front.getLast? with
      | none => exact ha
      | some d =>
        rw [hg] at hfront
        exact ⟨d, rfl, hfront⟩
    have hrun : 0 < run.length := by
      rw [List.length_pos_iff]
      rintro rfl
      rw [List.append_nil] at hsplit
      subst hsplit
      rw [List.getLast?_eq_some_getLast hne, Option.all_some] at hfront
      rw [hlast _ (List.getLast?_eq_some_getLast hne)] at hfront
      cases hfront
    rw [headD_drop hd, if_pos (by simpa using ⟨hrun, hspace⟩), if_pos hfront, ← hsplit, List.length_append]
    omega
  · rw [if_neg hfront]
    cases hg : front.getLast? with
    | none =>
      rw [hg] at hfront
      exact absurd rfl hfront
    | some d =>
      have hd : (a ++ front).getLast? = some d := by simp [List.getLast?_append, hg]
      rw [hg, Option.all_some] at hfront
      rw [headD_drop hd, if_neg (by simp [hfront])]

end Heading

namespace Opening

variable {c : LineCursor} {indent gap t y : Bytes} {level : Nat}

lemma atxHeading_eq_none (hoffset : blockOffset? c = some indent.length)
    (hrest : c.rest = indent ++ (List.replicate level (byte '#') ++ y)) (hhead : y.head? ≠ some (byte '#'))
    (h : ¬ (1 ≤ level ∧ level ≤ 6) ∨ ∃ b ∈ y.head?, Bytes.isSpace b = false) : atxHeading c = none := by
  simp only [atxHeading, hoffset, hrest, ← List.drop_drop, List.drop_left, Bytes.length_run hhead, Bytes.drop_run]
  rcases h with h | ⟨b, hb, hspace⟩
  · exact if_pos (by simp; omega)
  · obtain ⟨y, rfl⟩ := List.head?_eq_some_iff.mp hb
    rw [List.takeWhile_cons_of_neg (by simp [hspace])]
    split <;> rfl

section

variable (hoffset : blockOffset? c = some indent.length) (hlevel : 1 ≤ level ∧ level ≤ 6)
include hoffset hlevel

lemma atxHeading_blank (hrest : c.rest = indent ++ (List.replicate level (byte '#') ++ y)) (hne : y ≠ [])
    (hy : ∀ b ∈ y, Bytes.isSpace b = true) :
    atxHeading c = some { block := .heading level, cursor := c } := by
  have hbounds : (level == 0 || decide (level > 6)) = false := by simp; omega
  have hhead : y.head? ≠ some (byte '#') := fun h => absurd (hy _ (List.mem_of_head? h)) (by decide)
  have hpos := List.length_pos_iff.mpr hne
  have hgap : y.takeWhile Bytes.isSpace = y := List.takeWhile_eq_self_iff.mpr hy
  have hmin : min (indent.length + level + y.length) ((indent ++ (List.replicate level (byte '#') ++ y)).length - 1) =
      indent.length + level + y.length - 1 := by
    simp only [List.length_append, List.length_replicate]
    omega
  have htrim : (Bytes.trimRight Bytes.isSpace (indent ++ (List.replicate level (byte '#') ++ y))).length =
      indent.length + level := by
    rw [← List.append_assoc, Bytes.trimRight_append_of_all hy, Bytes.trimRight_eq_self, List.length_append, List.length_replicate]
    intro b hb
    rw [List.getLast?_append_of_ne_nil _ (by simp; omega)] at hb
    rw [List.eq_of_mem_replicate (List.mem_of_getLast? hb)]
    rfl
  have hstop : headingStop (indent ++ (List.replicate level (byte '#') ++ y)) (indent.length + level + y.length - 1)
      (indent.length + level) = indent.length + level + y.length - 1 := if_pos (by omega)
  have hempty : y.isEmpty = false := by simpa using hne
  have hnone : (y.length == 0) = false := by simpa using hne
  simp only [atxHeading, hoffset, hrest, ← List.drop_drop, List.drop_left, Bytes.length_run hhead, Bytes.drop_run, hbounds, hempty, hgap, hnone, hmin,
    htrim, hstop, Bytes.slice, Nat.sub_self, List.take_zero, Bool.false_eq_true, if_false]
  rfl

/-- Marks with text behind them are a heading with what is kept of the text. -/
lemma atxHeading_text (hrest : c.rest = indent ++ (List.replicate level (byte '#') ++ gap) ++ (t ++ y))
    (hgap : gap ≠ []) (hspaces : ∀ b ∈ gap, Bytes.isSpace b = true) (hne : t ≠ [])
    (hhead : ∀ b ∈ t.head?, Bytes.isSpace b = false) (hlast : ∀ b ∈ t.getLast?, Bytes.isSpace b = false) (hy0 : y ≠ [])
    (hy : ∀ b ∈ y, Bytes.isSpace b = true) :
    let start := c.span.start - c.padding + (indent.length + level + gap.length)
    atxHeading c = some
      { block := .heading level, cursor := c,
        lines := if (Heading.kept t).isEmpty then [] else [⟨start, start + (Heading.kept t).length, 0⟩] } := by
  intro start
  have hbounds : (level == 0 || decide (level > 6)) = false := by simp; omega
  have hmarks : (gap ++ (t ++ y)).head? ≠ some (byte '#') := by
    rw [List.head?_append_of_ne_nil _ hgap]
    exact fun h => absurd (hspaces _ (List.mem_of_head? h)) (by decide)
  have hwidth : (gap ++ (t ++ y)).takeWhile Bytes.isSpace = gap := by
    obtain ⟨b, t, rfl⟩ := List.exists_cons_of_ne_nil hne
    rw [List.takeWhile_append_of_pos hspaces, List.cons_append, List.takeWhile_cons_of_neg (by simp [hhead b rfl]),
      List.append_nil]
  have hempty : (gap ++ (t ++ y)).isEmpty = false := by simp [hgap]
  have hnone : (gap.length == 0) = false := by simpa using hgap
  have hafter : indent ++ (List.replicate level (byte '#') ++ gap) ++ (t ++ y) =
      indent ++ (List.replicate level (byte '#') ++ (gap ++ (t ++ y))) := by simp only [List.append_assoc]
  have hlen : (indent ++ (List.replicate level (byte '#') ++ gap)).length = indent.length + level + gap.length := by
    simp only [List.length_append, List.length_replicate]
    omega
  have hmin : min (indent.length + level + gap.length)
      ((indent ++ (List.replicate level (byte '#') ++ gap) ++ (t ++ y)).length - 1) = indent.length + level + gap.length := by
    have ht := List.length_pos_iff.mpr hne
    have hy := List.length_pos_iff.mpr hy0
    rw [List.length_append, hlen, List.length_append]
    omega
  have htrim : (Bytes.trimRight Bytes.isSpace (indent ++ (List.replicate level (byte '#') ++ gap) ++ (t ++ y))).length =
      indent.length + level + gap.length + t.length := by
    rw [← List.append_assoc, Bytes.trimRight_append_of_all hy, Bytes.trimRight_eq_self, List.length_append, hlen]
    rwa [List.getLast?_append_of_ne_nil _ hne]
  have hfront : ∃ d, (indent ++ (List.replicate level (byte '#') ++ gap)).getLast? = some d ∧ Bytes.isSpace d = true := by
    rw [← List.append_assoc, List.getLast?_append_of_ne_nil _ hgap]
    exact ⟨_, List.getLast?_eq_some_getLast hgap, hspaces _ (List.getLast_mem hgap)⟩
  have hstop := Heading.headingStop_eq (y := y) hfront hne hlast
  rw [hlen] at hstop
  have hkept : Bytes.slice (indent ++ (List.replicate level (byte '#') ++ gap) ++ (t ++ y)) (indent.length + level + gap.length)
      (indent.length + level + gap.length + (Heading.kept t).length) = Heading.kept t := by
    obtain ⟨x, hx⟩ := Heading.kept_isPrefix t
    have hcut : t ++ y = Heading.kept t ++ (x ++ y) := by rw [← List.append_assoc, hx]
    rw [hcut, ← hlen]
    exact Bytes.slice_append _ _ _
  have hsome : (Bytes.trimRight (· == byte '#') (Heading.kept t)).isEmpty = (Heading.kept t).isEmpty := by
    rw [Bool.eq_iff_iff, List.isEmpty_iff, List.isEmpty_iff, Heading.trimRight_kept]
  rw [hafter] at hrest hmin htrim hstop hkept
  simp only [atxHeading, hoffset, hrest, ← List.drop_drop, List.drop_left, Bytes.length_run hmarks, Bytes.drop_run, hbounds, hempty, hwidth, hnone,
    hmin, htrim, hstop, hkept, hsome, Bool.false_eq_true, if_false, start]
  simp only [Nat.add_assoc]

end

end Opening

end MarkdownTidy
