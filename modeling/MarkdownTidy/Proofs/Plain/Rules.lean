import MarkdownTidy.Document.Blocks
import MarkdownTidy.Pipeline.Basic
import MarkdownTidy.Proofs.Document.Spans
import MarkdownTidy.Proofs.Plain.Rereading

/-! The rules that a line of a plain document is tried on. -/

namespace MarkdownTidy.Plain

def grammar : Grammar := (Pipeline.bare {}).grammar

lemma grammar_bare (style : Style) : (Pipeline.bare style).grammar = grammar := rfl

lemma grammar_block : grammar.block =
    [.setextHeading, .thematicBreak, .list, .listItem, .codeBlock, .atxHeading, .fencedCode,
      .blockquote, .html, .footnote, .paragraph] := rfl

lemma shortcode_notMem (style : Style) (s : ShortcodeSource) : .shortcode s ∉ (Pipeline.bare style).grammar.block := by
  simp [grammar_bare, grammar_block]

structure Clear (ctx : BlockContext) : Prop where
  references : ctx.references = []
  footnotes : ctx.footnotes = []
  hiddenPipes : ctx.hiddenPipes = []

/-! ### Rules that do not apply -/

section

variable (source : Bytes) (place : Place) (c : LineCursor)

def Silent (r : BlockRule) : Prop :=
  ∀ ctx, ∃ ctx', Opening.try_ source place ctx c r = (ctx', none) ∧ (Clear ctx → Clear ctx')

lemma firstOf_silent_append {rs : List BlockRule} (h : ∀ r ∈ rs, Silent source place c r)
    (rs' : List BlockRule) (ctx : BlockContext) :
    ∃ ctx', (Clear ctx → Clear ctx') ∧
      Opening.firstOf source place c ctx (rs ++ rs') = Opening.firstOf source place c ctx' rs' := by
  induction rs generalizing ctx with
  | nil => exact ⟨ctx, id, rfl⟩
  | cons r rs ih =>
    rw [List.forall_mem_cons] at h
    obtain ⟨ctx₁, h₁, hc₁⟩ := h.1 ctx
    obtain ⟨ctx₂, hc₂, h₂⟩ := ih h.2 ctx₁
    refine ⟨ctx₂, hc₂ ∘ hc₁, ?_⟩
    rw [List.cons_append, Opening.firstOf, h₁]
    exact h₂

lemma firstOf_silent {rs : List BlockRule} (h : ∀ r ∈ rs, Silent source place c r)
    (ctx : BlockContext) :
    ∃ ctx', (Clear ctx → Clear ctx') ∧ Opening.firstOf source place c ctx rs = (ctx', none) := by
  obtain ⟨ctx', hc, he⟩ := firstOf_silent_append source place c h [] ctx
  rw [List.append_nil] at he
  exact ⟨ctx', hc, he⟩

end

variable {source : Bytes} {number start : Nat} {l : Bytes} {ls : List Bytes}

/-! ### Indentation -/

lemma measure_spaces {k : Nat} {x : Bytes} (h : ∀ b ∈ x.head?, b ≠ byte ' ' ∧ b ≠ byte '\t') :
    Indent.measure (Bytes.spaces k ++ x) 0 = (k, k) := by
  have hg : ∀ k w, Indent.measure.go 0 w w (Bytes.spaces k ++ x) = (w + k, w + k) := by
    intro k
    induction k with
    | zero =>
      intro w
      cases x with
      | nil => rfl
      | cons b x =>
        have hb := h b rfl
        simp [Bytes.spaces, Indent.measure.go, hb.1, hb.2]
    | succ k ih =>
      intro w
      rw [Bytes.spaces_succ, List.cons_append, Indent.measure.go, if_pos (by simp), ih]
      simp only [Prod.mk.injEq]
      omega
  simpa [Indent.measure] using hg k 0

lemma four_le_measure (x : Bytes) : 4 ≤ (Indent.measure (Bytes.spaces 4 ++ x) 0).1 :=
  le_measure_go x 0 4 4

/-! ### Rules that are tried -/

def triggered : Bytes → List BlockRule
  | [] => []
  | b :: _ => grammar.block.filter fun r => (r.triggers?.map (·.contains b)).getD false

lemma triggers?_isSome_of_mem {x : Bytes} {r : BlockRule} (h : r ∈ triggered x) :
    r ∈ grammar.block ∧ ∃ b ∈ x.head?, ∃ t, r.triggers? = some t ∧ b ∈ t := by
  cases x with
  | nil => simp [triggered] at h
  | cons b x =>
    rw [triggered, List.mem_filter] at h
    refine ⟨h.1, b, rfl, ?_⟩
    cases ht : r.triggers? with
    | none => simp [ht] at h
    | some t => exact ⟨t, rfl, by simpa [ht] using h.2⟩

lemma rules_eq (s : OpeningState) (line : Bytes) :
    s.rules grammar line =
      (triggered (line.drop (Indent.measure line s.cursor.column).2) ++
          [BlockRule.codeBlock, .paragraph]).filter fun r =>
        (!(s.continuable && s.opened.isEmpty) || r.interruptsParagraph) &&
          (decide ((Indent.measure line s.cursor.column).1 ≤ 3) || r.acceptsIndent) := by
  rw [OpeningState.rules]
  generalize Indent.measure line s.cursor.column = m
  obtain ⟨width, count⟩ := m
  dsimp only
  cases line.drop count <;> rfl

lemma rules_deep {s : OpeningState} {line : Bytes} (h : 4 ≤ (Indent.measure line s.cursor.column).1) :
    s.rules grammar line = if s.continuable && s.opened.isEmpty then [] else [.codeBlock] := by
  have hw : decide ((Indent.measure line s.cursor.column).1 ≤ 3) = false := by
    simp only [decide_eq_false_iff_not]
    omega
  have ht : ∀ r ∈ triggered (line.drop (Indent.measure line s.cursor.column).2),
      r.acceptsIndent = false := by
    intro r hr
    obtain ⟨-, -, -, t, ht, -⟩ := triggers?_isSome_of_mem hr
    cases r <;> first | rfl | cases ht
  rw [rules_eq, hw, List.filter_append, List.filter_eq_nil_iff.mpr (fun r hr => by simp [ht r hr])]
  cases s.continuable && s.opened.isEmpty <;> rfl

lemma rules_shallow {s : OpeningState} {line : Bytes} (ho : s.opened = [])
    (h : (Indent.measure line s.cursor.column).1 ≤ 3) :
    s.rules grammar line = triggered (line.drop (Indent.measure line s.cursor.column).2) ++
      if s.continuable then [] else [.codeBlock, .paragraph] := by
  have ht : ∀ r ∈ triggered (line.drop (Indent.measure line s.cursor.column).2),
      r.interruptsParagraph = true := by
    intro r hr
    obtain ⟨hm, -, -, t, ht, -⟩ := triggers?_isSome_of_mem hr
    simp only [grammar_block, List.mem_cons, List.not_mem_nil, or_false] at hm
    rcases hm with rfl | rfl | rfl | rfl | rfl | rfl | rfl | rfl | rfl | rfl | rfl <;>
      first | rfl | cases ht
  rw [rules_eq, decide_eq_true h, ho, List.filter_append,
    List.filter_eq_self.mpr fun r hr => by simp [ht r hr]]
  cases s.continuable <;> rfl

lemma triggered_mark (x : Bytes) : triggered (byte '`' :: x) = [.fencedCode] := rfl

lemma triggered_sign (x : Bytes) : triggered (byte '#' :: x) = [.atxHeading] := rfl

lemma triggered_newline (x : Bytes) : triggered (Bytes.newline :: x) = [] := rfl

lemma mem_triggered_words {t x : Bytes} (h : Words t) {r : BlockRule} (hr : r ∈ triggered (t ++ x)) :
    r = .setextHeading ∨ r = .list ∨ r = .listItem ∨ r = .atxHeading := by
  cases t with
  | nil => exact absurd rfl h.ne_nil
  | cons b t =>
    obtain ⟨hm, c, hb, u, hu, hc⟩ := triggers?_isSome_of_mem hr
    obtain rfl : b = c := by simpa using hb
    have hs : ∀ u : Bytes, (u.all fun c => (utf8 "-+>|:").contains c || markup.contains c) = true → b ∉ u := by
      intro u hu hb
      have hc := List.all_eq_true.mp hu b hb
      simp only [Bool.or_eq_true, List.contains_iff_mem] at hc
      exact hc.elim (h.first b rfl) (h.noMarkup b (by simp))
    simp only [grammar_block, List.mem_cons, List.not_mem_nil, or_false] at hm
    rcases hm with rfl | rfl | rfl | rfl | rfl | rfl | rfl | rfl | rfl | rfl | rfl <;>
      simp only [BlockRule.triggers?, Option.some.injEq, reduceCtorEq, true_or, or_true] at hu ⊢
    all_goals
      subst hu
      exact absurd hc (hs _ rfl)

/-! ### Lines of words -/

lemma measure_words {t : Bytes} (h : Words t) (k : Nat) (x : Bytes) :
    Indent.measure (Bytes.spaces k ++ (t ++ x)) 0 = (k, k) := by
  apply measure_spaces
  intro b hb
  rw [List.head?_append_of_ne_nil _ h.ne_nil] at hb
  have hs := h.isSpace_head hb
  constructor <;> rintro rfl <;> cases hs

lemma measure_fst_eq_zero_iff (b : UInt8) (x : Bytes) :
    (Indent.measure (b :: x) 0).1 = 0 ↔ b ≠ byte ' ' ∧ b ≠ byte '\t' := by
  rw [Indent.measure, Indent.measure.go]
  by_cases hs : b = byte ' '
  · have hw := le_measure_go x 0 1 1
    simp [hs]
    omega
  · rw [if_neg (by simpa using hs)]
    by_cases ht : b = byte '\t'
    · have hw : 4 ≤ (Indent.measure.go 0 (0 + Indent.tabWidth (0 + 0)) (0 + 1) x).1 := le_measure_go x 0 4 1
      rw [if_pos (by simpa using ht)]
      simp only [ht, ne_eq, not_true_eq_false, and_false, iff_false]
      omega
    · simp [hs, ht]

lemma finish_eq_none_iff {ordered : Bool} {i w n : Nat} {mark : UInt8} {x : Bytes} :
    ListMarker.finish ordered i w n mark x = none ↔
      ∃ b ∈ x.head?, b ≠ Bytes.newline ∧ b ≠ byte ' ' ∧ b ≠ byte '\t' := by
  cases x with
  | nil => simp [ListMarker.finish]
  | cons b x =>
    by_cases hn : b = Bytes.newline
    · simp [ListMarker.finish, hn]
    · simp [ListMarker.finish, hn, measure_fst_eq_zero_iff]

lemma read?_spaces {k : Nat} {x : Bytes} (hk : k ≤ 3) (hx : x.head? ≠ some (byte ' ')) :
    ListMarker.read? (Bytes.spaces k ++ x) = none ↔ ListMarker.read? x = none := by
  have hw : ∀ k, (Bytes.spaces k ++ x).takeWhile (· == byte ' ') = Bytes.spaces k := by
    intro k
    rw [List.takeWhile_append_of_pos fun c hc => by simp [Bytes.eq_of_mem_spaces hc]]
    cases x with
    | nil => simp
    | cons b x =>
      have hb : b ≠ byte ' ' := by simpa using hx
      simp [hb]
  have h0 : x.takeWhile (· == byte ' ') = [] := by simpa [Bytes.spaces] using hw 0
  have hk' : ¬ k > 3 := by omega
  have hd : (Bytes.spaces k ++ x).drop k = x := Bytes.drop_run
  simp only [ListMarker.read?, hw, h0, Bytes.length_spaces, hd, if_neg hk', List.length_nil,
    List.drop_zero]
  cases x with
  | nil => simp
  | cons b x =>
    by_cases hb : ListMarker.isBullet b = true
    · simp [hb, finish_eq_none_iff]
    · simp only [hb]
      cases (b :: x).drop ((b :: x).takeWhile Bytes.isDigit).length with
      | nil => simp
      | cons m y =>
        by_cases hm : (m == byte '.' || m == byte ')') = true
        · simp [hm, finish_eq_none_iff]
        · simp [hm]

lemma not_isDigit_of_isSpace {c : UInt8} (h : Bytes.isSpace c = true) :
    Bytes.isDigit c = false ∧ c ≠ byte '.' ∧ c ≠ byte ')' := by
  simp only [Bytes.isSpace, Bool.or_eq_true, beq_iff_eq] at h
  rcases h with (((rfl | rfl) | rfl) | rfl) | rfl <;> decide

lemma isBullet_eq_false {b : UInt8} {t : Bytes} (h : Words (b :: t)) : ListMarker.isBullet b = false := by
  have hf := h.first b rfl
  have hm := h.noMarkup b (by simp)
  simp only [ListMarker.isBullet, Bool.or_eq_false_iff, beq_eq_false_iff_ne]
  refine ⟨⟨?_, ?_⟩, ?_⟩ <;> rintro rfl
  · exact hf (by decide)
  · exact hm (by decide)
  · exact hf (by decide)

/-- White space behind words does not make them a list marker. -/
lemma read?_append {t y : Bytes} (h : Words t) (hy : ∀ c ∈ y, Bytes.isSpace c = true) :
    ListMarker.read? (t ++ y) = none := by
  have hu := h.unmarked
  cases t with
  | nil => exact absurd rfl h.ne_nil
  | cons b t =>
    have hb := isBullet_eq_false h
    have hs : b ≠ byte ' ' := by
      rintro rfl
      exact h.head rfl
    have h0 : ∀ x, (b :: x).takeWhile (· == byte ' ') = [] := fun x => by simp [hs]
    have hdigits : (b :: t ++ y).takeWhile Bytes.isDigit = (b :: t).takeWhile Bytes.isDigit := by
      have hd : y.takeWhile Bytes.isDigit = [] := by
        cases y with
        | nil => rfl
        | cons c y => exact List.takeWhile_cons_of_neg (by simp [not_isDigit_of_isSpace (hy c (by simp))])
      rw [List.takeWhile_append, hd]
      split
      · rename_i hl
        rw [List.append_nil, (List.takeWhile_prefix _).eq_of_length hl]
      · rfl
    have hdrop : (b :: t ++ y).drop ((b :: t).takeWhile Bytes.isDigit).length =
        (b :: t).drop ((b :: t).takeWhile Bytes.isDigit).length ++ y :=
      List.drop_append_of_le_length (List.takeWhile_sublist (l := b :: t) Bytes.isDigit).length_le
    simp only [ListMarker.read?, List.cons_append, h0, List.length_nil, List.drop_zero, hb] at hu hdigits hdrop ⊢
    rw [hdigits, hdrop]
    revert hu
    cases (b :: t).drop ((b :: t).takeWhile Bytes.isDigit).length with
    | nil =>
      intro _
      cases y with
      | nil => simp
      | cons c y =>
        have hc := not_isDigit_of_isSpace (hy c (by simp))
        simp [hc.2.1, hc.2.2]
    | cons m x =>
      by_cases hm : (m == byte '.' || m == byte ')') = true
      · simp only [hm, if_true, Bool.false_eq_true, if_false, List.cons_append]
        rw [if_neg (by omega : ¬ 0 > 3), if_neg (by omega : ¬ 0 > 3)]
        intro hu
        split at hu
        · rw [if_pos ‹_›]
        · rw [if_neg ‹_›, finish_eq_none_iff]
          obtain ⟨c, hc, hne⟩ := finish_eq_none_iff.mp hu
          refine ⟨c, ?_, hne⟩
          rw [Option.mem_def] at hc
          rw [List.head?_append, hc]
          rfl
      · simp [hm]

lemma read?_words {k : Nat} {t y : Bytes} (h : Words t) (hk : k ≤ 3)
    (hy : ∀ c ∈ y, Bytes.isSpace c = true) : ListMarker.read? (Bytes.spaces k ++ (t ++ y)) = none := by
  rw [read?_spaces hk]
  · exact read?_append h hy
  · rw [List.head?_append_of_ne_nil _ h.ne_nil]
    exact h.head

lemma underlineLevel?_words {k : Nat} {t y : Bytes} (h : Words t) (hk : k ≤ 3)
    (hy : ∀ c ∈ y, Bytes.isSpace c = true) :
    underlineLevel? (Bytes.spaces k ++ (t ++ y)) = if isRow t then some 1 else none := by
  have hd : (Bytes.spaces k ++ (t ++ y)).dropWhile (· == byte ' ') = t ++ y := by
    rw [List.dropWhile_append_of_pos fun c hc => by simp [Bytes.eq_of_mem_spaces hc]]
    cases t with
    | nil => exact absurd rfl h.ne_nil
    | cons b t =>
      have hb : b ≠ byte ' ' := by
        rintro rfl
        exact h.head rfl
      simp [hb]
  have hl : ¬ (Bytes.spaces k ++ (t ++ y)).length - (t ++ y).length > 3 := by simp; omega
  have ht : Bytes.trimRight Bytes.isSpace (t ++ y) = t := by
    rw [Bytes.trimRight_append_of_all hy, Bytes.trimRight_eq_self fun c => h.isSpace_last]
  simp only [underlineLevel?, hd, if_neg hl, ht]
  cases t with
  | nil => exact absurd rfl h.ne_nil
  | cons b t =>
    have hb : b ≠ byte '-' := by
      rintro rfl
      exact h.first _ rfl (by decide)
    by_cases he : b = byte '='
    · subst he
      by_cases hr : t.all (· == byte '=') <;> simp [isRow, hr]
    · simp [isRow, he, hb]

end MarkdownTidy.Plain
