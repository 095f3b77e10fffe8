import MarkdownTidy.Proofs.Document.QuietLines

/-! Positions on a line, and what is left of it there: the containers that are open take indentation and markers off
its front, and what is left opens blocks or goes on with those inside. -/

namespace MarkdownTidy

open Writer (isIndent)

/-! ### Indentation -/

namespace Indent

variable {s : Bytes} {column : Nat}

lemma measure_snd (s : Bytes) (column : Nat) : (measure s column).2 = (s.takeWhile isIndent).length := by
  have hgo : ∀ w n, (measure.go column w n s).2 = n + (s.takeWhile isIndent).length := by
    induction s with
    | nil => exact fun w n => rfl
    | cons b s ih =>
      intro w n
      rw [measure.go, List.takeWhile_cons, isIndent]
      by_cases hs : b = byte ' '
      · simp [hs, ih]
        omega
      · by_cases ht : b = byte '\t'
        · have hspace : (byte '\t' == byte ' ') = false := by decide
          simp [ht, hspace, ih]
          omega
        · simp [hs, ht]
  simpa [measure] using hgo 0 0

lemma take?_spec {width count padding : Nat} (h : take? s column 0 width = some (count, padding)) :
    count ≤ (s.takeWhile isIndent).length ∧ (0 < width → 0 < count) := by
  have hfinish : ∀ {n w}, take?.finish 0 width n w = some (count, padding) → count = n ∧ width ≤ w := by
    intro n w hf
    rw [take?.finish] at hf
    split at hf
    · cases hf
      exact ⟨rfl, by assumption⟩
    · cases hf
  have hgo : ∀ n w, take?.go column 0 width n w 0 s = some (count, padding) →
      n ≤ count ∧ count ≤ n + (s.takeWhile isIndent).length ∧ (w < width → n < count) := by
    clear h
    induction s with
    | nil =>
      intro n w h
      obtain ⟨rfl, hw⟩ := hfinish h
      exact ⟨le_rfl, Nat.le_add_right _ _, fun h => absurd h (by omega)⟩
    | cons b s ih =>
      intro n w h
      rw [take?.go] at h
      have hstop : take?.finish 0 width n w = some (count, padding) →
          n ≤ count ∧ count ≤ n + ((b :: s).takeWhile isIndent).length ∧ (w < width → n < count) := by
        intro hf
        obtain ⟨rfl, hw⟩ := hfinish hf
        exact ⟨le_rfl, Nat.le_add_right _ _, fun h => absurd h (by omega)⟩
      have hmore : isIndent b = true → ∀ w', take?.go column 0 width (n + 1) w' 0 s = some (count, padding) →
          n ≤ count ∧ count ≤ n + ((b :: s).takeWhile isIndent).length ∧ (w < width → n < count) := by
        intro hb w' hgo
        obtain ⟨hle, hlen, -⟩ := ih _ _ hgo
        rw [List.takeWhile_cons_of_pos hb, List.length_cons]
        exact ⟨by omega, by omega, fun _ => by omega⟩
      split at h
      · exact hmore (by simp_all [isIndent]) _ h
      · split at h
        · exact hmore (by simp_all [isIndent]) _ h
        · exact hstop h
  rw [take?] at h
  split at h
  · cases h
    exact ⟨Nat.zero_le _, fun hw => absurd hw (by simp_all)⟩
  · obtain ⟨-, hlen, hpos⟩ := hgo 0 0 h
    exact ⟨by omega, hpos⟩

end Indent

/-! ### What is left of a line -/

namespace LineCursor

structure Left (source : Bytes) (c c₀ : LineCursor) (z : Bytes) : Prop where
  sameLine : c₀.SameLine c
  text : c.line.text.drop c.taken = z ++ [Bytes.newline]
  isPrefix : c.line.text <+: source.drop c.line.start

variable {source y z : Bytes} {c c₀ : LineCursor}

lemma padding_advance_eq (c : LineCursor) (n : Nat) (hn : n ≤ c.padding) : c.advance n = { c with padding := c.padding - n } := by
  obtain ⟨number, line, taken, padding, later⟩ := c
  rw [advance]
  cases later <;> rw [advance.go, if_pos hn]

namespace Left

variable (h : c.Left source c₀ z)

include h

lemma taken_add : c.taken + z.length + 1 = c.line.text.length := by
  have hlen := congrArg List.length h.text
  rw [List.length_drop, List.length_append, List.length_singleton] at hlen
  omega

lemma peek?_eq : c.peek? = some (Bytes.spaces c.padding ++ (z ++ [Bytes.newline])) := by
  rw [peek?, h.text]
  cases z <;> rfl

lemma rest_eq : c.rest = Bytes.spaces c.padding ++ (z ++ [Bytes.newline]) := by
  rw [rest, h.peek?_eq, Option.getD_some]

lemma advance_eq {n : Nat} (hn : n ≤ c.padding + z.length) :
    c.advance n = { c with taken := c.taken + (n - c.padding), padding := c.padding - n } := by
  by_cases hp : n ≤ c.padding
  · rw [padding_advance_eq c n hp, Nat.sub_eq_zero_of_le hp, Nat.add_zero]
  · have htaken := h.taken_add
    obtain ⟨number, line, taken, padding, later⟩ := c
    dsimp only at hn hp htaken ⊢
    have hlt : n - padding < line.text.length - taken := by omega
    have hzero : padding - n = 0 := by omega
    rw [hzero, advance]
    cases later <;> rw [advance.go, if_neg hp] <;> dsimp only <;> rw [if_pos hlt]

lemma advance {n : Nat} (hn : n ≤ c.padding + z.length) : (c.advance n).Left source c₀ (z.drop (n - c.padding)) := by
  rw [h.advance_eq hn]
  refine ⟨h.sameLine, ?_, h.isPrefix⟩
  dsimp only
  rw [← List.drop_drop, h.text, List.drop_append_of_le_length (by omega)]

lemma padded (padding : Nat) : { c with padding := padding }.Left source c₀ z := ⟨h.sameLine, h.text, h.isPrefix⟩

lemma advancePadded {n : Nat} (hn : n ≤ c.padding + z.length) (padding : Nat) :
    (c.advancePadded n padding).Left source c₀ (z.drop (n - c.padding)) := by
  rw [LineCursor.advancePadded]
  split
  · exact (h.advance hn).padded padding
  · exact h.advance hn

lemma length_span : c.span.length = c.padding + z.length + 1 := by
  have htaken := h.taken_add
  simp only [span, Span.length]
  omega

lemma sameLine_advance {n : Nat} (hn : n ≤ c.padding + z.length) : c₀.SameLine (c.advance n) := (h.advance hn).sameLine

lemma sameLine_toLastByte : c₀.SameLine c.toLastByte := by
  have hlen := h.length_span
  exact h.sameLine_advance (by omega)

lemma slice_span : Bytes.slice source c.span.start c.span.stop = z ++ [Bytes.newline] := by
  obtain ⟨r, hr⟩ := h.isPrefix
  have htaken := h.taken_add
  have hlen : c.line.start + c.line.text.length - (c.line.start + c.taken) = z.length + 1 := by omega
  rw [Bytes.slice, span, hlen, ← List.drop_drop, ← hr, List.drop_append_of_le_length (by omega), h.text,
    List.take_left' (by simp)]

lemma length_rest : c.rest.length = c.padding + z.length + 1 := by
  rw [h.rest_eq]
  simp [Nat.add_assoc]

lemma isBlank_rest : Bytes.isBlank c.rest = Bytes.isBlank z := by
  have hspaces : Bytes.isBlank (Bytes.spaces c.padding) = true :=
    List.all_eq_true.mpr fun b hb => Bytes.isSpace_of_mem_spaces hb
  have hnewline : Bytes.isBlank [Bytes.newline] = true := rfl
  rw [h.rest_eq, Bool.eq_iff_iff, isBlank_append, isBlank_append, hspaces, hnewline]
  simp

lemma indent {n : Nat} (hn : n ≤ (c.rest.takeWhile isIndent).length) :
    n ≤ c.padding + z.length ∧ ∃ y, z = y ++ z.drop (n - c.padding) ∧ y.length = n - c.padding ∧ ∀ b ∈ y, isIndent b = true := by
  have hindent : ∀ b ∈ c.rest.take n, isIndent b = true := by
    intro b hb
    rw [← List.takeWhile_append_dropWhile (p := isIndent) (l := c.rest), List.take_append_of_le_length hn] at hb
    exact List.mem_takeWhile_imp (List.take_subset _ _ hb)
  have hle : n ≤ c.padding + z.length := by
    by_contra hlong
    have htake : c.rest.take n = c.rest := List.take_of_length_le (by rw [h.length_rest]; omega)
    have hnewline := hindent Bytes.newline (by rw [htake, h.rest_eq]; simp)
    cases hnewline
  have hlen : n - c.padding ≤ z.length := by omega
  refine ⟨hle, z.take (n - c.padding), (List.take_append_drop _ _).symm, List.length_take_of_le hlen, fun b hb => hindent b ?_⟩
  rw [h.rest_eq, List.take_append, Bytes.length_spaces, List.take_append_of_le_length hlen]
  exact List.mem_append_right _ hb

end Left

end LineCursor

/-! ### The markers of containers -/

section

variable {source z : Bytes} {c c₀ : LineCursor}

structure Taken (source : Bytes) (c₀ : LineCursor) (z : Bytes) (d : LineCursor) (z' : Bytes) : Prop where
  left : d.Left source c₀ z'
  lead : ∃ y, z = y ++ z' ∧ ∀ b ∈ y, isLead b = true

lemma Taken.onward {d : LineCursor} {z' : Bytes} (h : Taken source c₀ z d z') : Onward z z' := by
  obtain ⟨y, hy, hlead⟩ := h.lead
  exact .behind hy (joint_of_forall hlead)

lemma Taken.solid {d : LineCursor} {z' : Bytes} (h : Taken source c₀ z d z') (hz : Solid z) : Solid z' := by
  obtain ⟨y, hy, hlead⟩ := h.lead
  rw [hy] at hz
  exact hz.behind hlead

variable (h : c.Left source c₀ z)

include h

lemma Taken.indent {n : Nat} (hn : n ≤ (c.rest.takeWhile isIndent).length) (padding : Nat) :
    Taken source c₀ z (c.advancePadded n padding) (z.drop (n - c.padding)) := by
  obtain ⟨hle, y, hy, -, hindent⟩ := h.indent hn
  exact ⟨h.advancePadded hle padding, y, hy, fun b hb => isLead_of_isIndent (hindent b hb)⟩

lemma LineCursor.Left.behind_indent {b : UInt8}
    (hb : (c.rest.drop (c.rest.takeWhile isIndent).length).head? = some b) (hn : b ≠ Bytes.newline) :
    let n := (c.rest.takeWhile isIndent).length + 1
    ∃ y t, z = y ++ b :: t ∧ (∀ a ∈ y, isIndent a = true) ∧ c.rest.drop n = t ++ [Bytes.newline] ∧
      (c.advance n).Left source c₀ t ∧ (c.advance n).padding = 0 := by
  obtain ⟨hle, y, hy, hylen, hindent⟩ := h.indent le_rfl
  -- The padding is part of the indentation.
  have hpadding : c.padding ≤ (c.rest.takeWhile isIndent).length := by
    rw [h.rest_eq, List.takeWhile_append_of_pos, List.length_append, Bytes.length_spaces]
    · exact Nat.le_add_right _ _
    · intro a ha
      rw [Bytes.eq_of_mem_spaces ha]
      rfl
  generalize (c.rest.takeWhile isIndent).length = count at *
  have hdrop : c.rest.drop count = z.drop (count - c.padding) ++ [Bytes.newline] := by
    rw [h.rest_eq, List.drop_append, Bytes.length_spaces, List.drop_of_length_le (by simpa using hpadding),
      List.nil_append, List.drop_append_of_le_length (by omega)]
  generalize z.drop (count - c.padding) = x at hy hdrop
  rw [hdrop] at hb
  cases x with
  | nil => exact absurd (Option.some.inj hb).symm hn
  | cons a t =>
    obtain rfl : a = b := by simpa using hb
    have hlen : count + 1 ≤ c.padding + z.length := by
      rw [hy, List.length_append, List.length_cons]
      omega
    have hleft := h.advance hlen
    rw [show count + 1 - c.padding = (y ++ [a]).length by rw [List.length_append, hylen, List.length_singleton]; omega,
      show z = y ++ [a] ++ t by rw [hy]; simp, List.drop_left] at hleft
    refine ⟨y, t, hy, hindent, ?_, hleft, ?_⟩
    · rw [← List.drop_drop, hdrop]
      rfl
    · rw [h.advance_eq hlen]
      dsimp only
      omega

lemma quoteMarker?_taken {d : LineCursor} (hd : Opening.quoteMarker? c = some d) :
    ∃ z', Taken source c₀ z d z' ∧ z'.length < z.length := by
  simp only [Opening.quoteMarker?, Indent.measure_snd] at hd
  split at hd
  · cases hd
  · rename_i hmark
    simp only [Bool.or_eq_true, not_or, bne_iff_ne, ne_eq, not_not] at hmark
    obtain ⟨y, t, rfl, hindent, hrest, hleft, hpadding⟩ := h.behind_indent hmark.2 (by decide)
    rw [hrest] at hd
    generalize c.advance ((c.rest.takeWhile isIndent).length + 1) = inner at hd hleft hpadding
    have hz : y ++ byte '>' :: t = y ++ [byte '>'] ++ t := by simp
    have hlead : ∀ b ∈ y ++ [byte '>'], isLead b = true := by
      rw [List.forall_mem_append]
      exact ⟨fun b hb => isLead_of_isIndent (hindent b hb), List.forall_mem_singleton.mpr rfl⟩
    cases t with
    | nil =>
      obtain rfl : inner = d := by
        simpa [show Bytes.newline ≠ byte ' ' by decide, show Bytes.newline ≠ byte '\t' by decide] using hd
      exact ⟨[], ⟨hleft, _, hz, hlead⟩, by simp⟩
    | cons b u =>
      have hmore : isIndent b = true → ∀ padding, ∃ z', Taken source c₀ (y ++ byte '>' :: b :: u)
          (inner.advancePadded 1 padding) z' ∧ z'.length < (y ++ byte '>' :: b :: u).length := by
        intro hb padding
        have hpadded := hleft.advancePadded (n := 1) (by rw [List.length_cons]; omega) padding
        rw [hpadding] at hpadded
        refine ⟨u, ⟨hpadded, y ++ [byte '>'] ++ [b], by simp, ?_⟩, by simp; omega⟩
        exact List.forall_mem_append.mpr ⟨hlead, List.forall_mem_singleton.mpr (isLead_of_isIndent hb)⟩
      simp only [List.cons_append] at hd
      split at hd
      · rename_i hb
        obtain rfl := Option.some.inj hd
        have hsame : inner.advance 1 = inner.advancePadded 1 0 := by
          rw [LineCursor.advancePadded]
          rfl
        rw [hsame]
        exact hmore (by rw [isIndent, hb, Bool.true_or]) 0
      · split at hd
        · rename_i hb
          obtain rfl := Option.some.inj hd
          exact hmore (by rw [isIndent, hb, Bool.or_true]) _
        · obtain rfl := Option.some.inj hd
          exact ⟨b :: u, ⟨hleft, _, hz, hlead⟩, by simp; omega⟩

end

end MarkdownTidy
