import MarkdownTidy.Proofs.Plain.Opening

/-! The lines of a plain paragraph define no reference and hold no table. -/

namespace MarkdownTidy

/-! ### Cursors that see no byte of a kind -/

structure TextCursor.Lacks (b : UInt8) (c : TextCursor) : Prop where
  rest : b ∉ c.rest
  later : ∀ l ∈ c.later, b ∉ l.text

namespace TextCursor.Lacks

variable {b : UInt8} {c : TextCursor}

lemma nextLine (h : c.Lacks b) : c.nextLine.Lacks b := by
  have hl := h.later
  rw [TextCursor.nextLine]
  cases hc : c.later with
  | nil => exact ⟨by simp [finish], by simp [finish]⟩
  | cons l ls =>
    rw [hc, List.forall_mem_cons] at hl
    exact ⟨hl.1, hl.2⟩

lemma step (h : c.Lacks b) : c.step.Lacks b := by
  have hr := h.rest
  rw [TextCursor.step]
  split
  · exact ⟨hr, h.later⟩
  · split
    · rename_i he
      rw [he] at hr
      exact ⟨fun hm => hr (List.mem_cons_of_mem _ hm), h.later⟩
    · split
      · exact ⟨by simp, h.later⟩
      · exact h.nextLine
    · split
      · exact ⟨hr, h.later⟩
      · exact h.nextLine

lemma skipSpaces_go (h : c.Lacks b) (fuel n : Nat) : (skipSpaces.go fuel c n).1.Lacks b := by
  induction fuel generalizing c n with
  | zero => exact h
  | succ fuel ih =>
    rw [skipSpaces.go]
    split
    · split
      · exact ih h.step _
      · exact h
    · exact ih h.step _
    · exact h

lemma skipSpaces (h : c.Lacks b) : c.skipSpaces.1.Lacks b := h.skipSpaces_go _ _

lemma notMem_peek? (h : c.Lacks b) (hb : b ≠ byte ' ') {l : Bytes} (hl : c.peek? = some l) : b ∉ l := by
  rw [peek?] at hl
  split at hl
  · cases hl
  · obtain rfl := Option.some.inj hl
    simp only [List.mem_append, not_or]
    exact ⟨fun hm => hb (Bytes.eq_of_mem_spaces hm), h.rest⟩

end TextCursor.Lacks

lemma readDefinition?_eq_none {lines : List TextLine} {c : TextCursor} (h : c.Lacks (byte '[')) :
    readDefinition? lines c = none := by
  have hs := h.skipSpaces
  rw [readDefinition?]
  generalize c.skipSpaces = p at hs
  obtain ⟨c, n⟩ := p
  dsimp only at hs ⊢
  cases hp : c.peek? with
  | none => rfl
  | some l =>
    have hl : byte '[' ∉ l := hs.notMem_peek? (by decide) hp
    have hd : ∀ n, ((l.drop n).head? == some (byte '[')) = false := by
      intro n
      rw [beq_eq_false_iff_ne]
      intro he
      exact hl (List.mem_of_mem_drop (List.mem_of_head? he))
    rw [Option.bind_eq_bind, Option.bind_some]
    generalize Indent.measure l 0 = m
    obtain ⟨width, count⟩ := m
    dsimp only
    rw [hd]
    by_cases hw : width ≤ 3
    · rw [guard, if_pos hw]
      rfl
    · rw [guard, if_neg hw]
      rfl

lemma lacks_ofLines {b : UInt8} {lines : List TextLine} (h : ∀ l ∈ lines, b ∉ l.text) :
    (TextCursor.ofLines lines).Lacks b := by
  cases lines with
  | nil => exact ⟨by simp [TextCursor.ofLines], by simp [TextCursor.ofLines]⟩
  | cons l ls =>
    rw [List.forall_mem_cons] at h
    exact ⟨h.1, h.2⟩

lemma readDefinitions_eq_nil {lines : List TextLine} (h : ∀ l ∈ lines, byte '[' ∉ l.text) (n : Nat) :
    readDefinitions lines n (.ofLines lines) = [] := by
  cases n with
  | zero => rfl
  | succ n => rw [readDefinitions, readDefinition?_eq_none (lacks_ofLines h)]

lemma Table.search?_eq_none {source : Bytes} {spans : List Span}
    (h : ∀ s ∈ spans, Table.alignments? (s.value source) = none) (seen : List Span) (above : Span) :
    Table.search? source seen above spans = none := by
  induction spans generalizing seen above with
  | nil => rfl
  | cons s spans ih =>
    rw [List.forall_mem_cons] at h
    simp only [Table.search?, h.1]
    exact ih h.2 _ _

lemma Table.find?_eq_none {source : Bytes} {spans : List Span}
    (h : ∀ s ∈ spans, Table.alignments? (s.value source) = none) : Table.find? source spans = none := by
  cases spans with
  | nil => rfl
  | cons s spans => exact Table.search?_eq_none (List.forall_mem_cons.mp h).2 _ _

namespace Plain

variable {source : Bytes}

def Wordy (source : Bytes) (s : Span) : Prop :=
  ∃ k t y, Words t ∧ (∀ b ∈ y, Bytes.isSpace b = true) ∧ s.Covers source (Bytes.spaces k ++ (t ++ y))

lemma alignments?_words {k : Nat} {t y : Bytes} (h : Words t) :
    Table.alignments? (Bytes.spaces k ++ (t ++ y)) = none := by
  cases t with
  | nil => exact absurd rfl h.ne_nil
  | cons b t =>
    have hs : Bytes.isSpace b = false := h.isSpace_head rfl
    have hf := h.first b rfl
    have hne : ∀ c ∈ utf8 "-+>|:", b ≠ c := by
      rintro c hc rfl
      exact hf hc
    have ha : (Bytes.spaces k ++ (b :: t ++ y)).all
        (fun b => Bytes.isSpace b || b == byte '-' || b == byte '|' || b == byte ':') = false := by
      rw [List.all_append, List.cons_append, List.all_cons]
      simp [hs, hne (byte '-') (by decide), hne (byte '|') (by decide), hne (byte ':') (by decide)]
    simp only [Table.alignments?, ha, Bool.not_false, Bool.or_true, Bool.true_or, if_true]

lemma bracket_notMem_words {k : Nat} {t y : Bytes} (h : Words t) (hy : ∀ b ∈ y, Bytes.isSpace b = true) :
    byte '[' ∉ Bytes.spaces k ++ (t ++ y) := by
  simp only [List.mem_append, not_or]
  refine ⟨fun hm => absurd (Bytes.eq_of_mem_spaces hm) (by decide), fun hm => h.noMarkup _ hm (by decide),
    fun hm => absurd (hy _ hm) (by decide)⟩

lemma settleParagraph_wordy {spans : List Span} (h : ∀ s ∈ spans, Wordy source s) (hne : spans ≠ [])
    (ctx : BlockContext) (blank : Bool) :
    settleParagraph grammar source ctx spans blank = (ctx, some spans, []) := by
  have hd : ∀ n, readDefinitions (textLines source spans) n (.ofLines (textLines source spans)) = [] := by
    apply readDefinitions_eq_nil
    intro l hl
    obtain ⟨s, hs, rfl⟩ := List.mem_map.mp hl
    obtain ⟨k, t, y, ht, hy, hc⟩ := h s hs
    rw [hc.slice_eq]
    exact bracket_notMem_words ht hy
  have ht : Table.find? source spans = none := by
    apply Table.find?_eq_none
    intro s hs
    obtain ⟨k, t, y, ht, -, hc⟩ := h s hs
    rw [hc.value_eq]
    exact alignments?_words ht
  simp only [settleParagraph, hd, removeDefinitions, List.foldl_nil, ht, ite_self]

lemma trimLines_cons (s : Span) {spans : List Span} (h : spans ≠ []) :
    trimLines source (s :: spans) = s.trimLeft source :: trimLines source spans := by
  have hm : spans.map (·.trimLeft source) ≠ [] := by simpa using h
  simp only [trimLines, List.map_cons, List.getLast?_cons_of_ne_nil hm, List.dropLast_cons_of_ne_nil hm]
  rw [List.getLast?_eq_some_getLast hm]
  rfl

lemma Carries.trimLeft {s : Span} {p : Bytes} (h : Carries source s p) (hp : Words p) :
    ∃ m ≤ 1, (s.trimLeft source).Covers source (p ++ (Bytes.spaces m ++ [Bytes.newline])) := by
  obtain ⟨k, m, hm, hc⟩ := h
  refine ⟨m, hm, hc.trimLeft (fun _ => Bytes.isSpace_of_mem_spaces) ?_⟩
  rw [List.head?_append_of_ne_nil _ hp.ne_nil]
  exact fun c => hp.isSpace_head

lemma lines_trimLines {spans : List Span} {ps : List Bytes} (h : List.Forall₂ (Carries source) spans ps)
    (hw : ∀ p ∈ ps, Words p) (hne : ps ≠ []) : Lines source (trimLines source spans) ps := by
  induction h with
  | nil => contradiction
  | @cons s p spans ps hs h ih =>
    rw [List.forall_mem_cons] at hw
    obtain ⟨m, hm, hc⟩ := hs.trimLeft hw.1
    cases h with
    | nil =>
      refine .last 0 ?_
      rw [Bytes.spaces, List.replicate_zero, List.append_nil]
      exact hc.trimRight isSpace_of_mem_end (fun c => hw.1.isSpace_last) hw.1.ne_nil
    | cons h' h =>
      rw [trimLines_cons s (by simp)]
      exact .more m hm hc (ih hw.2 (by simp))

lemma Carries.wordy {s : Span} {p : Bytes} (h : Carries source s p) (hp : Words p) : Wordy source s := by
  obtain ⟨k, m, -, hc⟩ := h
  exact ⟨k, p, _, hp, isSpace_of_mem_end, hc⟩

lemma Lines.ne_nil {spans : List Span} {ps : List Bytes} (h : Lines source spans ps) : spans ≠ [] := by
  cases h <;> simp

lemma Lines.wordy {spans : List Span} {ps : List Bytes} (h : Lines source spans ps)
    (hw : ∀ p ∈ ps, Words p) : ∀ s ∈ spans, Wordy source s := by
  induction h with
  | @last s p j hc =>
    intro s hs
    obtain rfl := List.mem_singleton.mp hs
    exact ⟨0, p, _, hw p (by simp), fun _ => Bytes.isSpace_of_mem_spaces, by simpa [Bytes.spaces] using hc⟩
  | more j _ hc _ ih =>
    rw [List.forall_mem_cons] at hw ⊢
    exact ⟨⟨0, _, _, hw.1, isSpace_of_mem_end, by simpa [Bytes.spaces] using hc⟩, ih hw.2⟩

end Plain

end MarkdownTidy
