import MarkdownTidy.Proofs.Plain.Outline
import MarkdownTidy.Proofs.Writer.Fencing

/-! Plain documents as they are written, and the outline of what was written. It is the outline the
document had, unless a line of a paragraph or the end of a heading reads as markup once the spaces in
front of it are gone. -/

namespace MarkdownTidy.Plain

namespace Block

def headingLine (level : Nat) (text : Bytes) : Bytes :=
  List.replicate level (byte '#') ++ if text.isEmpty then [] else byte ' ' :: text

def fenceLength (lines : List Bytes) : Nat :=
  let longest := (lines.map (Writer.leadingRun (byte '`'))).foldl max 0
  if longest < 3 then 3 else longest + 1

/-- The lines a block is written on. -/
def lines : Block → List Bytes
  | paragraph lines => lines
  | heading level text => [headingLine level text]
  | code label lines =>
    let marks := List.replicate (fenceLength lines) (byte '`')
    (marks ++ label) :: (lines ++ [marks])

def Sound : Block → Prop
  | paragraph lines => lines ≠ [] ∧ (∀ l ∈ lines, Words l) ∧ ∀ l ∈ lines.head?, heading? l = none
  | heading level text => 1 ≤ level ∧ level ≤ 6 ∧ Phrase text
  | code label lines => Label label ∧ ∀ l ∈ lines, Bytes.newline ∉ l

end Block

/-- The lines blocks are written on, with blank lines between the blocks. -/
def written : List Block → List Bytes
  | [] => []
  | b :: bs => b.lines ++ if bs.isEmpty then [] else [] :: written bs

def following (bs : List Block) : List Bytes := if bs.isEmpty then [] else [] :: written bs

lemma written_cons (b : Block) (bs : List Block) : written (b :: bs) = b.lines ++ following bs := rfl

/-! ### Reading words -/

section

variable {t : Bytes} (h : Words t)
include h

lemma Words.body_eq : body t = t := by simpa [Bytes.spaces] using h.toTrimmed.body_eq 0 0

lemma Words.indent_eq : indent t = 0 := by simpa [Bytes.spaces] using h.toTrimmed.indent_eq h.ne_nil 0 []

lemma Words.isBlank_eq_false : Bytes.isBlank t = false := by
  simpa using h.toTrimmed.isBlank_eq_false h.ne_nil [] []

lemma Words.fence?_eq_none (k : Nat) (s : Bytes) : fence? (Bytes.spaces k ++ t ++ s) = none := by
  have hb : (Bytes.spaces k ++ t ++ s).takeWhile (· == byte '`') = [] := by
    cases k with
    | zero =>
      cases t with
      | nil => exact absurd rfl h.ne_nil
      | cons b t =>
        have hm := h.noMarkup b (by simp)
        have hb : b ≠ byte '`' := by
          rintro rfl
          exact hm (by decide)
        simp [Bytes.spaces, hb]
    | succ k =>
      rw [Bytes.spaces_succ]
      exact List.takeWhile_cons_of_neg (by decide)
  simp only [fence?, hb]
  rfl

lemma Words.step_nothing (hh : heading? t = none) : Open.nothing.step t = ([], .paragraph [t]) := by
  have hf := h.fence?_eq_none 0 []
  simp only [Bytes.spaces, List.replicate_zero, List.nil_append, List.append_nil] at hf
  simp [Open.step, Open.start, Open.close, h.isBlank_eq_false, h.indent_eq, h.body_eq, hf, hh]

end

/-! ### Reading headings -/

lemma fence?_eq {n j m : Nat} {i : Bytes} (hn : 3 ≤ n) (h : Label i) :
    fence? (List.replicate n (byte '`') ++ (Bytes.spaces j ++ i ++ Bytes.spaces m)) = some (n, i) := by
  have hs : ∀ k, byte '`' ∉ Bytes.spaces k := fun k hk => absurd (Bytes.eq_of_mem_spaces hk) (by decide)
  have hm : byte '`' ∉ Bytes.spaces j ++ i ++ Bytes.spaces m := by
    simp [hs, h.noMark]
  have hf : (Bytes.spaces j ++ i ++ Bytes.spaces m).head? ≠ some (byte '`') :=
    fun hh => hm (List.mem_of_head? hh)
  have hc : (Bytes.spaces j ++ i ++ Bytes.spaces m).contains (byte '`') = false := by simpa using hm
  have h3 : ¬ n < 3 := by omega
  simp only [fence?, Bytes.length_run hf, Bytes.drop_run, hc, h.toTrimmed.body_eq]
  simp [h3]

lemma isBlank_marks {n : Nat} (hn : 3 ≤ n) (x : Bytes) :
    Bytes.isBlank (List.replicate n (byte '`') ++ x) = false := by
  obtain ⟨k, rfl⟩ : ∃ k, n = k + 1 := ⟨n - 1, by omega⟩
  rfl

lemma indent_marks {n : Nat} (hn : 3 ≤ n) (x : Bytes) : indent (List.replicate n (byte '`') ++ x) = 0 := by
  obtain ⟨k, rfl⟩ : ∃ k, n = k + 1 := ⟨n - 1, by omega⟩
  rfl

lemma start_fence {n j m : Nat} {i : Bytes} (hn : 3 ≤ n) (h : Label i) :
    Open.start (List.replicate n (byte '`') ++ (Bytes.spaces j ++ i ++ Bytes.spaces m)) =
      .fenced n i [] := by
  rw [Open.start, fence?_eq hn h, isBlank_marks hn, indent_marks hn]
  rfl

lemma le_measure_go (l : Bytes) (a w c : Nat) : w ≤ (Indent.measure.go a w c l).1 := by
  induction l generalizing w c with
  | nil => exact Nat.le_refl _
  | cons b l ih =>
    rw [Indent.measure.go]
    split
    · exact Nat.le_of_succ_le (ih (w + 1) (c + 1))
    · split
      · exact Nat.le_trans (Nat.le_add_right _ _) (ih _ (c + 1))
      · exact Nat.le_refl _

lemma step_nothing (l : Bytes) : Open.nothing.step l = ([], Open.start l) := rfl

lemma Trimmed.nil : Trimmed [] := ⟨fun _ hr => absurd hr (by simp), by simp, by simp⟩

lemma Phrase.nil : Phrase [] := ⟨.nil, by simp⟩

lemma Label.nil : Label [] := ⟨.nil, by simp⟩

lemma Spaced.phrase_body {s : Bytes} (h : Spaced s) (hm : ∀ b ∈ s, b ∉ markup) : Phrase (body s) := by
  obtain ⟨ht, k, m, hs⟩ := h.trimmed_body
  refine ⟨ht, fun b hb => hm b ?_⟩
  rw [hs]
  simp [hb]

lemma Spaced.dropRun {t : Bytes} {c : UInt8} (h : Spaced t) (hc : c < 0x80) :
    Spaced (t.rdropWhile (· == c)) := by
  have hr := List.rdropWhile_append_rtakeWhile (p := (· == c)) (l := t)
  have hn : t.rtakeWhile (· == c) = List.replicate (t.rtakeWhile (· == c)).length c :=
    List.eq_replicate_iff.mpr ⟨rfl, fun b hb => by simpa using List.mem_rtakeWhile_imp hb⟩
  rw [← hr, hn] at h
  exact h.of_append_run hc

lemma Phrase.unclosed {t : Bytes} (h : Phrase t) : Phrase (unclosed t) := by
  rw [Plain.unclosed, Bytes.trimRight_eq_rdropWhile]
  split
  · exact (h.spaced.dropRun (by decide)).phrase_body
      fun b hb => h.noMarkup b ((List.rdropWhile_prefix _ _).subset hb)
  · exact h

lemma heading?_sound {t x : Bytes} {k : Nat} (h : Phrase t) (hh : heading? t = some (k, x)) :
    1 ≤ k ∧ k ≤ 6 ∧ Phrase x := by
  have ht : t.takeWhile (· == byte '#') ++ t.drop (t.takeWhile (· == byte '#')).length = t := by
    rw [Bytes.drop_length_takeWhile, List.takeWhile_append_dropWhile]
  simp only [heading?] at hh
  split at hh
  · simp at hh
  · rename_i hk
    simp only [Bool.or_eq_true, beq_iff_eq, decide_eq_true_eq, not_or] at hk
    split at hh
    · simp only [Option.some.injEq, Prod.mk.injEq] at hh
      obtain ⟨rfl, rfl⟩ := hh
      exact ⟨by omega, by omega, .nil⟩
    · rename_i b rest hd
      split at hh
      · rename_i hb
        simp only [Option.some.injEq, Prod.mk.injEq] at hh
        obtain ⟨rfl, rfl⟩ := hh
        rw [hd, beq_iff_eq.mp hb] at ht
        have hs : Spaced rest := by
          have hs := h.spaced
          rw [← ht] at hs
          exact ((spaced_append (by decide) _ _).mp hs).2.2
        refine ⟨by omega, by omega, (hs.phrase_body fun b hb => h.noMarkup b ?_).unclosed⟩
        rw [← ht]
        simp [hb]
      · simp at hh

lemma phrase_join {ps : List Bytes} (h : ∀ p ∈ ps, Words p) : Phrase (Bytes.join [byte ' '] ps) := by
  induction ps with
  | nil => exact .nil
  | cons p ps ih =>
    rw [List.forall_mem_cons] at h
    obtain ⟨hp, hps⟩ := h
    cases ps with
    | nil => simpa [Bytes.join] using hp.toPhrase
    | cons q ps =>
      have hq := ih hps
      have hne : Bytes.join [byte ' '] (q :: ps) ≠ [] := by
        have hq' := (hps q (by simp)).ne_nil
        cases ps <;> simp [Bytes.join, hq']
      rw [Bytes.join_cons (by simp), List.append_assoc, List.singleton_append]
      refine ⟨⟨(spaced_append (by decide) _ _).mpr ⟨hp.spaced, by simp, hq.spaced⟩, ?_, ?_⟩, ?_⟩
      · rw [List.head?_append_of_ne_nil _ hp.ne_nil]
        exact hp.head
      · rw [List.getLast?_append_of_ne_nil _ (by simp), List.getLast?_cons_of_ne_nil hne]
        exact hq.last
      · simp only [List.forall_mem_append, List.forall_mem_cons]
        exact ⟨hp.noMarkup, by decide, hq.noMarkup⟩

lemma isBlank_spaces (k : Nat) : Bytes.isBlank (Bytes.spaces k) = true :=
  List.all_eq_true.mpr fun _ => Bytes.isSpace_of_mem_spaces

lemma four_le_indent (t : Bytes) : 4 ≤ indent (Bytes.spaces 4 ++ t) := by
  rw [indent, List.takeWhile_append_of_pos fun _ hb => by simp [Bytes.eq_of_mem_spaces hb]]
  simp

lemma start_spaces (k : Nat) : Open.start (Bytes.spaces k) = .nothing := by
  rw [Open.start, if_pos (isBlank_spaces k)]

lemma start_deep {t : Bytes} (h : Bytes.isBlank t = false) :
    Open.start (Bytes.spaces 4 ++ t) = .indented [t] := by
  have hb : Bytes.isBlank (Bytes.spaces 4 ++ t) = false := h
  rw [Open.start, if_neg (by simp [hb]), if_pos (four_le_indent t)]
  rfl

lemma start_words {k m : Nat} {t : Bytes} (h : Words t) :
    Open.start (Bytes.spaces k ++ t ++ Bytes.spaces m) =
      if k ≥ 4 then .indented [(Bytes.spaces k ++ t ++ Bytes.spaces m).drop 4]
      else
        match heading? t with
        | some (level, text) => .heading level text
        | none => .paragraph [t] := by
  rw [Open.start, h.toTrimmed.isBlank_eq_false h.ne_nil, h.toTrimmed.indent_eq h.ne_nil,
    h.fence?_eq_none, h.toTrimmed.body_eq]
  cases heading? t <;> rfl

lemma step_paragraph_spaces (ps : List Bytes) (k : Nat) :
    (Open.paragraph ps).step (Bytes.spaces k) = ([.paragraph ps], .nothing) := by
  rw [Open.step, if_pos (isBlank_spaces k)]

lemma step_paragraph_words (ps : List Bytes) {k m : Nat} {t : Bytes} (h : Words t) :
    (Open.paragraph ps).step (Bytes.spaces k ++ t ++ Bytes.spaces m) =
      if k ≥ 4 then ([], .paragraph (ps ++ [t]))
      else if isRow t then ([], .heading 1 (Bytes.join [byte ' '] ps))
      else
        match heading? t with
        | some (level, text) => ([.paragraph ps], .heading level text)
        | none => ([], .paragraph (ps ++ [t])) := by
  rw [Open.step, start_words h, h.toTrimmed.isBlank_eq_false h.ne_nil, h.toTrimmed.indent_eq h.ne_nil,
    h.fence?_eq_none, h.toTrimmed.body_eq]
  by_cases hk : k ≥ 4
  · simp [hk]
  · cases heading? t <;> simp [hk]

lemma step_paragraph_fence (ps : List Bytes) {n j m : Nat} {i : Bytes} (hn : 3 ≤ n) (h : Label i) :
    (Open.paragraph ps).step
        (List.replicate n (byte '`') ++ (Bytes.spaces j ++ i ++ Bytes.spaces m)) =
      ([.paragraph ps], .fenced n i []) := by
  rw [Open.step, start_fence hn h, fence?_eq hn h, isBlank_marks hn, indent_marks hn]
  rfl

lemma newline_notMem_spaces (k : Nat) : Bytes.newline ∉ Bytes.spaces k :=
  fun h => absurd (Bytes.eq_of_mem_spaces h) (by decide)

lemma newline_notMem_line {l : Bytes} (h : BlankLine l ∨ DeepLine l ∨ WordLine l ∨ FenceLine l) :
    Bytes.newline ∉ l := by
  rcases h with ⟨k, rfl⟩ | ⟨t, hn, -, rfl⟩ | ⟨k, t, m, hw, -, rfl⟩ | ⟨n, j, i, m, -, hi, rfl⟩
  · exact newline_notMem_spaces k
  · simp [newline_notMem_spaces, hn]
  · simp [newline_notMem_spaces, hw.newline_notMem]
  · have hb : Bytes.newline ≠ byte '`' := by decide
    simp [newline_notMem_spaces, hi.newline_notMem, hb]

namespace Open

def Sound : Open → Prop
  | nothing => True
  | heading level text => (Block.heading level text).Sound
  | paragraph lines => (Block.paragraph lines).Sound
  | indented lines => (Block.code [] lines).Sound
  | fenced _ label lines => (Block.code label lines).Sound

lemma Sound.close {o : Open} (h : o.Sound) : ∀ b ∈ o.close, b.Sound := by
  cases o with
  | nothing => simp [Open.close]
  | indented lines =>
    simp only [Open.close, List.mem_singleton, forall_eq]
    refine ⟨.nil, fun l hl => h.2 l ?_⟩
    rw [dropBlankEnd, List.mem_reverse] at hl
    simpa using (List.dropWhile_subset _) hl
  | _ => exact List.forall_mem_singleton.mpr h

lemma sound_start {l : Bytes} (h : BlankLine l ∨ DeepLine l ∨ WordLine l ∨ FenceLine l) :
    (start l).Sound := by
  have hl := newline_notMem_line h
  rcases h with ⟨k, rfl⟩ | ⟨t, hn, hb, rfl⟩ | ⟨k, t, m, hw, hm, rfl⟩ | ⟨n, j, i, m, hn, hi, rfl⟩
  · rw [start_spaces]
    trivial
  · rw [start_deep hb]
    exact ⟨.nil, by simpa using hn⟩
  · rw [start_words hw]
    split
    · exact ⟨.nil, by simpa using fun hm => hl (List.mem_of_mem_drop hm)⟩
    · cases hh : heading? t with
      | some r => exact heading?_sound hw.toPhrase hh
      | none => exact ⟨by simp, by simpa using hw, by simpa using hh⟩
  · rw [start_fence hn hi]
    exact ⟨hi, by simp⟩

lemma Sound.step {o : Open} {l : Bytes} (h : o.Sound) (hl : o.Admits l) :
    (∀ b ∈ (o.step l).1, b.Sound) ∧ (o.step l).2.Sound := by
  cases o with
  | nothing => exact ⟨Sound.close h, sound_start hl⟩
  | heading k t => exact ⟨Sound.close h, sound_start hl⟩
  | indented ls =>
    rw [Open.step]
    split
    · refine ⟨by simp, .nil, ?_⟩
      have hn := newline_notMem_line hl
      simp only [List.forall_mem_append, List.forall_mem_singleton]
      exact ⟨h.2, fun hm => hn (List.mem_of_mem_drop hm)⟩
    · exact ⟨Sound.close h, sound_start hl⟩
  | fenced n i ls =>
    rw [Open.step]
    split
    · exact ⟨Sound.close h, trivial⟩
    · refine ⟨by simp, h.1, ?_⟩
      simp only [List.forall_mem_append, List.forall_mem_singleton]
      exact ⟨h.2, hl⟩
  | paragraph ps =>
    have hgrow : ∀ t, Words t → (paragraph (ps ++ [t])).Sound := by
      intro t ht
      refine ⟨by simp, ?_, ?_⟩
      · simp only [List.forall_mem_append, List.forall_mem_singleton]
        exact ⟨h.2.1, ht⟩
      · rw [List.head?_append_of_ne_nil _ h.1]
        exact h.2.2
    rcases hl with ⟨k, rfl⟩ | ⟨k, t, m, hw, -, rfl⟩ | ⟨n, j, i, m, hn, hi, rfl⟩
    · rw [step_paragraph_spaces]
      exact ⟨Sound.close h, trivial⟩
    · rw [step_paragraph_words ps hw]
      split
      · exact ⟨by simp, hgrow t hw⟩
      · split
        · exact ⟨by simp, Nat.le_refl 1, by omega, phrase_join h.2.1⟩
        · cases hh : heading? t with
          | some r => exact ⟨Sound.close h, heading?_sound hw.toPhrase hh⟩
          | none => exact ⟨by simp, hgrow t hw⟩
    · rw [step_paragraph_fence ps hn hi]
      exact ⟨Sound.close h, hi, by simp⟩

lemma Sound.outline {o : Open} {ls : List Bytes} (h : o.Sound) (hl : o.AdmitsAll ls) :
    ∀ b ∈ o.outline ls, b.Sound := by
  induction ls generalizing o with
  | nil => exact h.close
  | cons l ls ih =>
    have hs := h.step hl.1
    rw [Open.outline, List.forall_mem_append]
    exact ⟨hs.1, ih hs.2 hl.2⟩

end Open

end MarkdownTidy.Plain
