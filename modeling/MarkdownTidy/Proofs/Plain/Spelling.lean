import MarkdownTidy.Proofs.Plain.Reading
import MarkdownTidy.Proofs.Text.Marks
import MarkdownTidy.Proofs.Writer.Fencing

/-! A plain document with its marks spelled out. Every line is taken for what it was, so the outline is the same with the
marks in its texts spelled out. The document is plain as well unless a line of text begins with a dash, which becomes the
beginning of a list, of a table or of a break. -/

namespace MarkdownTidy.Plain

open Punctuation (Mark entities hasMark isSpelling mark? spell)

variable {l t : Bytes} {ls : List Bytes}

/-! ### Lines -/

lemma isSpace_spelling {b : UInt8} (h : Bytes.isSpace b = true) : b < 0x80 ∧ isSpelling b = false := by
  simp only [Bytes.isSpace, Bool.or_eq_true, beq_iff_eq] at h
  rcases h with (((rfl | rfl) | rfl) | rfl) | rfl <;> decide

lemma isBlank_spell (l : Bytes) : Bytes.isBlank (spell entities l) = Bytes.isBlank l :=
  Punctuation.all_spell (fun _ => isSpace_spelling) l

def Block.spelled : Block → Block
  | .paragraph lines => .paragraph (lines.map (spell entities))
  | .heading level text => .heading level (spell entities text)
  | .code label lines => .code (spell entities label) (lines.map (spell entities))

namespace Open

def spelled : Open → Open
  | nothing => nothing
  | heading level text => heading level (spell entities text)
  | paragraph lines => paragraph (lines.map (spell entities))
  | indented lines => indented (lines.map (spell entities))
  | fenced n label lines => fenced n (spell entities label) (lines.map (spell entities))

end Open

/-! ### Plain text -/

def startsDashed (t : Bytes) : Bool := mark? t == some .enDash || mark? t == some .emDash

lemma spaced_ascii_append {w : Bytes} (hw : ∀ b ∈ w, b < 0x80 ∧ Text.isBlank b.toNat = false) (y : Bytes) :
    Spaced (w ++ y) ↔ Spaced y := by
  induction w with
  | nil => rfl
  | cons b w ih =>
    rw [List.forall_mem_cons] at hw
    rw [List.cons_append, spaced_cons hw.1.1, ih hw.2, hw.1.2]
    simp

lemma Spaced.spell_behind {x s : Bytes} (h : Spaced (x ++ s)) : Spaced (x ++ spell entities s) := by
  induction s using Punctuation.marks_induction generalizing x with
  | nil => exact h
  | byte b s hm ih =>
    rw [Punctuation.spell_cons hm]
    simpa using @ih (x ++ [b]) (by simpa using h)
  | mark m c s hm ih =>
    have hentities : ∀ b ∈ entities m, b < 0x80 ∧ Text.isBlank b.toNat = false := by
      cases m <;> decide +kernel
    obtain ⟨code, hcode⟩ := Punctuation.codePoints_mark hm
    rw [Spaced, Utf8.codePoints_append (by decide), hcode, List.forall_mem_append, List.forall_mem_cons] at h
    have hs : Spaced (spell entities s) := @ih [] h.2.2
    obtain ⟨b, w, hb⟩ := List.exists_cons_of_ne_nil (Punctuation.entities_ne_nil m)
    rw [hb, List.forall_mem_cons] at hentities
    rw [Punctuation.spell_mark hm, hb, List.cons_append, spaced_append hentities.1.1, spaced_ascii_append hentities.2]
    exact ⟨h.1, by simp [hentities.1.2], hs⟩

lemma Trimmed.spell (h : Trimmed t) : Trimmed (spell entities t) := by
  refine ⟨?_, Punctuation.head?_spell_ne (by decide) h.head, Punctuation.getLast?_spell_ne (by decide) h.last⟩
  simpa using Spaced.spell_behind (x := []) h.spaced

lemma Phrase.spell (h : Phrase t) : Phrase (spell entities t) := by
  have hnone : ∀ b ∈ markup, isSpelling b = false := by decide +kernel
  refine ⟨h.toTrimmed.spell, fun b hb hm => ?_⟩
  rcases Punctuation.mem_spell hb with hb | hs
  · exact h.noMarkup b hb hm
  · rw [hnone b hm] at hs
    cases hs

lemma Label.spell (h : Label t) : Label (spell entities t) :=
  ⟨h.toTrimmed.spell, fun hm => h.noMark ((Punctuation.mem_spell_iff (by decide) (by decide)).mp hm)⟩

lemma read?_of_head {c : UInt8} (hs : c ≠ byte ' ') (hb : ListMarker.isBullet c = false) (hd : Bytes.isDigit c = false)
    (x : Bytes) : ListMarker.read? (c :: x) = none := by
  simp [ListMarker.read?, hs, hb, hd]

lemma finish_spell {ordered : Bool} {i w n : Nat} {mark : UInt8} {x : Bytes}
    (h : ListMarker.finish ordered i w n mark x = none) : ListMarker.finish ordered i w n mark (spell entities x) = none := by
  rw [finish_eq_none_iff] at h ⊢
  obtain ⟨b, hb, hne⟩ := h
  rcases Punctuation.head?_spell x with he | ⟨m, -, he⟩
  · exact ⟨b, he ▸ hb, hne⟩
  · rw [he]
    cases m <;> exact ⟨_, rfl, by decide⟩

lemma isDigit_spelling (c : UInt8) (h : Bytes.isDigit c = true) : c < 0x80 ∧ isSpelling c = false := by
  have hnone : ∀ b ∈ utf8 "&apos;qut-", Bytes.isDigit b = false := by decide +kernel
  refine ⟨?_, Bool.eq_false_iff.mpr fun hs => ?_⟩
  · have hle : c ≤ 57 := by simpa using (Bool.and_eq_true_iff.mp h).2
    exact UInt8.lt_of_le_of_lt hle (by decide)
  · rw [hnone c (by simpa [isSpelling] using hs)] at h
    cases h

lemma Words.read?_spell (h : Words t) (hd : startsDashed t = false) : ListMarker.read? (spell entities t) = none := by
  have hu := h.unmarked
  cases t with
  | nil => exact absurd rfl h.ne_nil
  | cons b x =>
    have hb := isBullet_eq_false h
    have hs : b ≠ byte ' ' := fun he => h.head (by rw [he]; rfl)
    cases hm : mark? (b :: x) with
    | some m =>
      obtain ⟨c, y, he, -⟩ := Punctuation.exists_of_mark? hm
      rw [he] at hm hd ⊢
      rw [Punctuation.spell_mark hm]
      cases m with
      | apostrophe => exact read?_of_head (by decide) (by decide) (by decide) _
      | quote => exact read?_of_head (by decide) (by decide) (by decide) _
      | enDash => simp [startsDashed, hm] at hd
      | emDash => simp [startsDashed, hm] at hd
    | none =>
      have hdigits := Punctuation.takeWhile_spell isDigit_spelling (b :: x)
      have hrest := Punctuation.drop_spell isDigit_spelling (b :: x) le_rfl
      have h0 : ∀ x, (b :: x).takeWhile (· == byte ' ') = [] := fun x => by simp [hs]
      rw [Punctuation.spell_cons hm] at hdigits hrest ⊢
      simp only [ListMarker.read?, h0, List.length_nil, List.drop_zero, hb, hdigits, hrest] at hu ⊢
      revert hu
      cases (b :: x).drop ((b :: x).takeWhile Bytes.isDigit).length with
      | nil => exact id
      | cons c y =>
        by_cases hc : (c == byte '.' || c == byte ')') = true
        · have hlt : c < 0x80 := by
            rw [Bool.or_eq_true, beq_iff_eq, beq_iff_eq] at hc
            rcases hc with rfl | rfl <;> decide
          rw [Punctuation.spell_cons (Punctuation.mark?_eq_none_of_lt hlt y)]
          simp only [hc, if_true, Bool.false_eq_true, if_false]
          rw [if_neg (by omega : ¬ 0 > 3), if_neg (by omega : ¬ 0 > 3)]
          intro hu
          split at hu
          · rw [if_pos ‹_›]
          · rw [if_neg ‹_›]
            exact finish_spell hu
        · have hdot : (spell entities (c :: y)).head? ≠ some (byte '.') :=
            Punctuation.head?_spell_ne (by decide) fun he => hc (by rw [Option.some.inj he]; decide)
          have hparen : (spell entities (c :: y)).head? ≠ some (byte ')') :=
            Punctuation.head?_spell_ne (by decide) fun he => hc (by rw [Option.some.inj he]; decide)
          obtain ⟨d, z, hdz⟩ := List.exists_cons_of_ne_nil (mt Punctuation.spell_eq_nil_iff.mp (List.cons_ne_nil c y))
          rw [hdz] at hdot hparen ⊢
          rw [List.head?_cons, ne_eq, Option.some.injEq] at hdot hparen
          have hd : ¬ (d == byte '.' || d == byte ')') = true := by simpa using ⟨hdot, hparen⟩
          simp [hd]

lemma Words.spell (h : Words t) (hd : startsDashed t = false) : Words (spell entities t) := by
  refine ⟨h.toPhrase.spell, mt Punctuation.spell_eq_nil_iff.mp h.ne_nil, fun b hb => ?_, h.read?_spell hd⟩
  rcases Punctuation.head?_spell t with he | ⟨m, hm, he⟩
  · exact h.first b (he ▸ hb)
  · rw [he] at hb
    cases m with
    | apostrophe => exact Option.some.inj hb ▸ by decide
    | quote => exact Option.some.inj hb ▸ by decide
    | enDash => simp [startsDashed, hm] at hd
    | emDash => simp [startsDashed, hm] at hd

/-! ### Plain documents -/

lemma spell_spaces_append (k : Nat) (t : Bytes) :
    spell entities (Bytes.spaces k ++ t) = Bytes.spaces k ++ spell entities t :=
  Punctuation.spell_ascii_append (fun c hc => (Bytes.eq_of_mem_spaces hc) ▸ by decide) t

lemma spell_append_spaces (t : Bytes) (k : Nat) :
    spell entities (t ++ Bytes.spaces k) = spell entities t ++ Bytes.spaces k := by
  have hlt : ∀ c ∈ Bytes.spaces k, c < 0x80 := fun c hc => (Bytes.eq_of_mem_spaces hc) ▸ by decide
  rw [Punctuation.spell_append fun c hc => hlt c (List.mem_of_head? hc), Punctuation.spell_ascii hlt]

lemma BlankLine.spell (h : BlankLine l) : BlankLine (spell entities l) := by
  obtain ⟨k, rfl⟩ := h
  have he := spell_spaces_append k []
  rw [List.append_nil, Punctuation.spell_nil, List.append_nil] at he
  exact ⟨k, he⟩

lemma newline_notMem_spell (h : Bytes.newline ∉ l) : Bytes.newline ∉ spell entities l :=
  mt (Punctuation.mem_spell_iff (by decide) (by decide)).mp h

lemma DeepLine.spell (h : DeepLine l) : DeepLine (spell entities l) := by
  obtain ⟨t, hn, hb, rfl⟩ := h
  exact ⟨spell entities t, newline_notMem_spell hn, by rw [isBlank_spell, hb], spell_spaces_append 4 t⟩

lemma WordLine.spell (h : WordLine l) (hd : startsDashed (body l) = false) : WordLine (spell entities l) := by
  obtain ⟨k, t, m, hw, hm, rfl⟩ := h
  rw [hw.toTrimmed.body_eq] at hd
  exact ⟨k, spell entities t, m, hw.spell hd, hm, by rw [List.append_assoc, spell_spaces_append, spell_append_spaces, List.append_assoc]⟩

lemma FenceLine.spell (h : FenceLine l) : FenceLine (spell entities l) := by
  obtain ⟨n, j, i, m, hn, hi, rfl⟩ := h
  have hticks : ∀ c ∈ List.replicate n (byte '`'), c < 0x80 := fun c hc => (List.eq_of_mem_replicate hc) ▸ by decide
  refine ⟨n, j, spell entities i, m, hn, hi.spell, ?_⟩
  rw [Punctuation.spell_ascii_append hticks, List.append_assoc, spell_spaces_append, spell_append_spaces, List.append_assoc]

lemma WordLine.deepLine (h : WordLine l) (hi : 4 ≤ indent l) : DeepLine l := by
  obtain ⟨k, t, m, hw, -, rfl⟩ := h
  rw [hw.toTrimmed.indent_eq hw.ne_nil] at hi
  obtain ⟨k, rfl⟩ := Nat.exists_eq_add_of_le hi
  refine ⟨Bytes.spaces k ++ t ++ Bytes.spaces m, ?_, hw.toTrimmed.isBlank_eq_false hw.ne_nil _ _, ?_⟩
  · simp only [List.mem_append, not_or]
    exact ⟨⟨newline_notMem_spaces k, hw.toTrimmed.newline_notMem⟩, newline_notMem_spaces m⟩
  · rw [Bytes.spaces_add]
    simp only [List.append_assoc]

namespace Open

def readsText : Open → Bytes → Bool
  | fenced .., _ => false
  | paragraph _, _ => true
  | _, l => indent l < 4

lemma Admits.spell {o : Open} (h : o.Admits l) (hd : o.readsText l = true → startsDashed (body l) = false) :
    o.spelled.Admits (spell entities l) := by
  have hloose : (indent l < 4 → startsDashed (body l) = false) → BlankLine l ∨ DeepLine l ∨ WordLine l ∨ FenceLine l →
      BlankLine (Punctuation.spell entities l) ∨ DeepLine (Punctuation.spell entities l) ∨
        WordLine (Punctuation.spell entities l) ∨ FenceLine (Punctuation.spell entities l) := by
    rintro hd (h | h | h | h)
    · exact .inl h.spell
    · exact .inr (.inl h.spell)
    · by_cases hi : indent l < 4
      · exact .inr (.inr (.inl (h.spell (hd hi))))
      · exact .inr (.inl (h.deepLine (by omega)).spell)
    · exact .inr (.inr (.inr h.spell))
  cases o with
  | fenced n label lines => exact newline_notMem_spell h
  | paragraph lines =>
    rcases h with h | h | h
    · exact .inl h.spell
    · exact .inr (.inl (h.spell (hd rfl)))
    · exact .inr (.inr h.spell)
  | nothing => exact hloose (fun hi => hd (decide_eq_true hi)) h
  | heading level text => exact hloose (fun hi => hd (decide_eq_true hi)) h
  | indented lines => exact hloose (fun hi => hd (decide_eq_true hi)) h

end Open

end MarkdownTidy.Plain
