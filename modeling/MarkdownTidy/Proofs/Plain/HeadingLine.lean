import MarkdownTidy.Proofs.Document.HeadingMarks
import MarkdownTidy.Proofs.Document.Spans
import MarkdownTidy.Proofs.Plain.Rules

/-! Headings on one line of a plain document. -/

namespace MarkdownTidy.Plain

variable {source : Bytes} {number start : Nat} {l : Bytes} {ls : List Bytes}

/-- Spans that hold lines of text. All lines but the last have their line feed, and at most one space
before it. -/
inductive Lines (source : Bytes) : List Span → List Bytes → Prop
  | last {s : Span} {p : Bytes} (j : Nat) (h : s.Covers source (p ++ Bytes.spaces j)) :
      Lines source [s] [p]
  | more {s : Span} {p : Bytes} {ss : List Span} {ps : List Bytes} (j : Nat) (hj : j ≤ 1)
      (h : s.Covers source (p ++ (Bytes.spaces j ++ [Bytes.newline]))) (hs : Lines source ss ps) :
      Lines source (s :: ss) (p :: ps)

def HeadingLines (source : Bytes) (spans : List Span) (text : Bytes) : Prop :=
  (spans = [] ∧ text = []) ∨
    ∃ ps, Lines source spans ps ∧ (∀ p ∈ ps, Phrase p ∧ p ≠ []) ∧ text = Bytes.join [byte ' '] ps

lemma HeadingLines.single {s : Span} {t : Bytes} {j : Nat} (hp : Phrase t) (ht : t ≠ [])
    (h : s.Covers source (t ++ Bytes.spaces j)) : HeadingLines source [s] t :=
  Or.inr ⟨[t], .last j h, by simpa using ⟨hp, ht⟩, by simp [Bytes.join]⟩

lemma Phrase.exists_kept {x : Bytes} (hx : Phrase x) : ∃ j, Heading.kept x = Plain.unclosed x ++ Bytes.spaces j := by
  have hsplit := List.rdropWhile_append_rtakeWhile (p := (· == byte '#')) (l := x)
  rw [Heading.kept, Plain.unclosed, Bytes.trimRight_eq_rdropWhile]
  generalize hfront : x.rdropWhile (· == byte '#') = front at *
  by_cases hl : front.getLast?.all (· == byte ' ') = true
  · have hspace : front.getLast?.all Bytes.isSpace = true := by
      cases hg : front.getLast? with
      | none => rfl
      | some d =>
        rw [hg, Option.all_some, beq_iff_eq] at hl
        rw [hl]
        rfl
    rw [if_pos hl, if_pos hspace]
    obtain ⟨-, k, j, hb⟩ := (hfront ▸ hx.spaced.dropRun (by decide) : Spaced front).trimmed_body
    cases k with
    | zero => exact ⟨j, hb⟩
    | succ k =>
      refine absurd ?_ hx.head
      rw [← hsplit, hb]
      rfl
  · have hspace : ¬ front.getLast?.all Bytes.isSpace = true := by
      cases hg : front.getLast? with
      | none => simp [hg] at hl
      | some d =>
        have hm : d ∈ x := hsplit ▸ List.mem_append_left _ (List.mem_of_getLast? hg)
        exact fun hs => hl (by simp [hg, hx.spaced.eq_of_isSpace hm (by simpa using hs)])
    rw [if_neg hl, if_neg hspace]
    exact ⟨0, (List.append_nil x).symm⟩

lemma blockOffset?_words {k : Nat} {t y : Bytes} (h : Words t) {c : LineCursor} (hc : c.column = 0)
    (hr : c.rest = Bytes.spaces k ++ (t ++ y)) : Opening.blockOffset? c = some k := by
  have hl : 0 < t.length := List.length_pos_iff.mpr h.ne_nil
  rw [Opening.blockOffset?, hr, hc, measure_words h]
  simp only [List.length_append, Bytes.length_spaces]
  rw [if_neg (by omega)]

lemma phrase_append_cases {a r : Bytes} (h : Phrase (a ++ r)) :
    r = [] ∨ (∃ b x, r = b :: x ∧ Bytes.isSpace b = false) ∨
      ∃ g x, r = Bytes.spaces (g + 1) ++ x ∧ Phrase x ∧ x ≠ [] := by
  cases r with
  | nil => exact Or.inl rfl
  | cons b r =>
    by_cases hb : Bytes.isSpace b = true
    · obtain rfl : b = byte ' ' := h.spaced.eq_of_isSpace (by simp) hb
      have hs : Spaced r := ((spaced_append (by decide) _ _).mp h.spaced).2.2
      obtain ⟨ht, g, m, hr⟩ := hs.trimmed_body
      have hp := hs.phrase_body fun b hb => h.noMarkup b (by simp [hb])
      have hl : ∀ x n, (a ++ byte ' ' :: r) ≠ x ++ Bytes.spaces (n + 1) := by
        intro x n hx
        apply h.last
        rw [hx, Bytes.spaces, List.replicate_succ', ← List.append_assoc]
        simp
      refine Or.inr (Or.inr ⟨g, body r, ?_, hp, ?_⟩)
      · cases m with
        | zero =>
          rw [Bytes.spaces_succ, List.cons_append]
          simpa [Bytes.spaces] using hr
        | succ m =>
          refine absurd ?_ (hl (a ++ byte ' ' :: (Bytes.spaces g ++ body r)) m)
          rw [List.append_assoc, List.cons_append, ← hr]
      · intro h0
        refine hl a (g + m) ?_
        rw [h0, List.append_nil, Bytes.spaces, Bytes.spaces, List.replicate_append_replicate] at hr
        rw [Bytes.spaces_succ, Bytes.spaces, ← hr]
    · exact Or.inr (Or.inl ⟨b, r, rfl, by simpa using hb⟩)

lemma isSpace_of_mem_end {m : Nat} : ∀ b ∈ Bytes.spaces m ++ [Bytes.newline], Bytes.isSpace b = true := by
  intro b hb
  rcases List.mem_append.mp hb with hb | hb
  · exact Bytes.isSpace_of_mem_spaces hb
  · rw [List.mem_singleton.mp hb]
    rfl

section

variable {n : Nat} (hn : ¬ (n == 0 || decide (n > 6)) = true)
include hn

lemma heading?_run_nil : heading? (List.replicate n (byte '#') ++ []) = some (n, []) := by
  simp only [heading?, Bytes.length_run (s := []) (by simp), Bytes.drop_run, if_neg hn]

lemma heading?_run_cons {b : UInt8} {x : Bytes} (hb : b ≠ byte '#') (hs : b ≠ byte ' ') :
    heading? (List.replicate n (byte '#') ++ b :: x) = none := by
  simp only [heading?, Bytes.length_run (s := b :: x) (by simpa using hb), Bytes.drop_run, if_neg hn]
  exact if_neg (by simpa using hs)

lemma heading?_run_spaces {g : Nat} {x : Bytes} (hx : Phrase x) :
    heading? (List.replicate n (byte '#') ++ (Bytes.spaces (g + 1) ++ x)) = some (n, unclosed x) := by
  have hbody : body (Bytes.spaces g ++ x) = x := by simpa [Bytes.spaces] using hx.body_eq g 0
  have hs : (byte ' ' :: (Bytes.spaces g ++ x)).head? ≠ some (byte '#') := by
    simp only [List.head?_cons]
    decide
  rw [Bytes.spaces_succ, List.cons_append]
  simp only [heading?, Bytes.length_run hs, Bytes.drop_run, if_neg hn, beq_self_eq_true, if_true, hbody]

end

/-- A line of words is taken for a heading where its words are. -/
lemma atxHeading_words (number : Nat) {k m n : Nat} {r : Bytes} (h : Words (List.replicate n (byte '#') ++ r))
    (hr : r.head? ≠ some (byte '#'))
    (hl : l = Bytes.spaces k ++ (List.replicate n (byte '#') ++ r) ++ Bytes.spaces m)
    (hs : source.drop start = Bytes.unlines (l :: ls)) :
    match heading? (List.replicate n (byte '#') ++ r) with
    | none => Opening.atxHeading (.front number start (l :: ls)) = none
    | some (level, text) =>
      ∃ spans, HeadingLines source spans text ∧
        Opening.atxHeading (.front number start (l :: ls)) =
          some { block := .heading level, lines := spans, cursor := .front number start (l :: ls) } := by
  have hend := isSpace_of_mem_end (m := m)
  generalize hy : Bytes.spaces m ++ [Bytes.newline] = y at hend
  have hy0 : y ≠ [] := by
    rintro rfl
    simp at hy
  have hrest : (LineCursor.front number start (l :: ls)).rest = Bytes.spaces k ++ (List.replicate n (byte '#') ++ r ++ y) := by
    rw [LineCursor.rest_front_cons, hl, ← hy]
    simp only [List.append_assoc]
  have hoff := blockOffset?_words h LineCursor.column_front hrest
  rw [← Bytes.length_spaces k] at hoff
  have hne : (r ++ y).head? ≠ some (byte '#') := by
    cases r with
    | nil => exact fun hh => absurd (hend _ (List.mem_of_head? hh)) (by decide)
    | cons b r => exact hr
  have hline : (LineCursor.front number start (l :: ls)).rest = Bytes.spaces k ++ (List.replicate n (byte '#') ++ (r ++ y)) := by
    rw [hrest, List.append_assoc (List.replicate n _)]
  by_cases hn : (n == 0 || decide (n > 6)) = true
  · have hh : heading? (List.replicate n (byte '#') ++ r) = none := by
      simp only [heading?, Bytes.length_run hr, if_pos hn]
    rw [hh]
    refine Opening.atxHeading_eq_none hoff hline hne (.inl ?_)
    simp only [Bool.or_eq_true, beq_iff_eq, decide_eq_true_eq] at hn
    omega
  · have hlevel : 1 ≤ n ∧ n ≤ 6 := by
      simp only [Bool.or_eq_true, beq_iff_eq, decide_eq_true_eq] at hn
      omega
    rcases phrase_append_cases h.toPhrase with rfl | ⟨b, x, rfl, hb⟩ | ⟨g, x, rfl, hx, hx0⟩
    · rw [heading?_run_nil hn]
      exact ⟨[], .inl ⟨rfl, rfl⟩, Opening.atxHeading_blank hoff hlevel hline hy0 hend⟩
    · have hbs : b ≠ byte ' ' := by
        rintro rfl
        cases hb
      rw [heading?_run_cons hn (by simpa using hr) hbs]
      exact Opening.atxHeading_eq_none hoff hline hne (.inr ⟨b, rfl, hb⟩)
    · -- The line is cut into what stands before the text, the text, and the white space behind it.
      have hcut : (LineCursor.front number start (l :: ls)).rest =
          Bytes.spaces k ++ (List.replicate n (byte '#') ++ Bytes.spaces (g + 1)) ++ (x ++ y) := by
        rw [hrest]
        simp only [List.append_assoc]
      have hcover := LineCursor.span_front_covers number hs
      rw [← LineCursor.rest_front_cons, hcut] at hcover
      obtain ⟨j, hj⟩ := hx.exists_kept
      obtain ⟨run, hrun⟩ := Heading.kept_isPrefix x
      rw [heading?_run_spaces hn hx]
      refine ⟨_, ?_, Opening.atxHeading_text hoff hlevel hcut (List.cons_ne_nil _ _)
        (fun b => Bytes.isSpace_of_mem_spaces) hx0 (fun b => hx.isSpace_head) (fun b => hx.isSpace_last) hy0 hend⟩
      split
      · rename_i he
        rw [List.isEmpty_iff.mp he] at hj
        exact .inl ⟨rfl, (List.append_eq_nil_iff.mp hj.symm).1⟩
      · rename_i he
        have hpart : Bytes.spaces k ++ (List.replicate n (byte '#') ++ Bytes.spaces (g + 1)) ++ (x ++ y) =
            Bytes.spaces k ++ (List.replicate n (byte '#') ++ Bytes.spaces (g + 1)) ++ Heading.kept x ++ (run ++ y) := by
          conv_lhs => rw [← hrun]
          simp only [List.append_assoc]
        rw [hpart] at hcover
        have hlen : (Bytes.spaces k ++ (List.replicate n (byte '#') ++ Bytes.spaces (g + 1))).length =
            (Bytes.spaces k).length + n + (Bytes.spaces (g + 1)).length := by
          simp only [List.length_append, List.length_replicate, Bytes.length_spaces]
          omega
        refine HeadingLines.single (j := j) hx.unclosed (fun hu => ?_) ?_
        · rw [hu, List.nil_append] at hj
          cases j with
          | zero => exact he (List.isEmpty_iff.mpr hj)
          | succ j => exact hx.head (by rw [← hrun, hj]; rfl)
        · rw [← hj, ← hlen]
          exact hcover.part

lemma exists_run (t : Bytes) :
    ∃ n r, t = List.replicate n (byte '#') ++ r ∧ r.head? ≠ some (byte '#') := by
  refine ⟨(t.takeWhile (· == byte '#')).length, t.dropWhile (· == byte '#'), ?_, ?_⟩
  · conv_lhs => rw [← List.takeWhile_append_dropWhile (p := (· == byte '#')) (l := t)]
    congr 1
    exact List.eq_replicate_iff.mpr ⟨rfl, fun b hb => by simpa using List.mem_takeWhile_imp hb⟩
  · intro hh
    have hd := List.head?_dropWhile_not (· == byte '#') t
    rw [hh] at hd
    cases hd

end MarkdownTidy.Plain
