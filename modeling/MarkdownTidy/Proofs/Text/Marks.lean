import MarkdownTidy.Proofs.Bytes.Cutting
import MarkdownTidy.Proofs.Text.CodePoints
import MarkdownTidy.Punctuation

/-! Marks of punctuation in a text, and the text with its marks spelled out. -/

namespace MarkdownTidy.Punctuation

variable {m : Mark} {s t : Bytes} {b : UInt8}

lemma mark?_eq_none_of_lt (h : b < 0x80) (s : Bytes) : mark? (b :: s) = none := by
  rw [mark?.eq_def]
  split
  · rename_i heq
    rw [List.cons.injEq] at heq
    rw [heq.1] at h
    exact absurd h (by decide)
  · rfl

lemma exists_of_mark? (h : mark? s = some m) :
    ∃ c t, s = 0xE2 :: 0x80 :: c :: t ∧ c ∈ ([0x99, 0xB2, 0x9C, 0x9D, 0xB3, 0x93, 0x94] : Bytes) := by
  rw [mark?.eq_def] at h
  split at h
  · rename_i c t
    refine ⟨c, t, rfl, ?_⟩
    by_contra hc
    simp only [List.mem_cons, List.not_mem_nil, or_false, not_or] at hc
    simp [hc] at h
  · cases h

lemma mem_of_mark? {c : UInt8} (h : mark? (0xE2 :: 0x80 :: c :: s) = some m) :
    c ∈ ([0x99, 0xB2, 0x9C, 0x9D, 0xB3, 0x93, 0x94] : Bytes) := by
  obtain ⟨d, t, he, hd⟩ := exists_of_mark? h
  obtain ⟨rfl, -⟩ : c = d ∧ s = t := by simpa using he
  exact hd

lemma not_lt_of_mark? {c : UInt8} (h : mark? (0xE2 :: 0x80 :: c :: s) = some m) : ¬ c < 0x80 := by
  have hall : ∀ c ∈ ([0x99, 0xB2, 0x9C, 0x9D, 0xB3, 0x93, 0x94] : Bytes), ¬ c < 0x80 := by decide +kernel
  exact hall c (mem_of_mark? h)

lemma codePoints_mark {c : UInt8} (h : mark? (0xE2 :: 0x80 :: c :: s) = some m) :
    ∃ code, Utf8.codePoints (0xE2 :: 0x80 :: c :: s) = ⟨code, [0xE2, 0x80, c]⟩ :: Utf8.codePoints s := by
  have hdecode : ∀ c ∈ ([0x99, 0xB2, 0x9C, 0x9D, 0xB3, 0x93, 0x94] : Bytes),
      ∃ code, ∀ s, Utf8.decode (0xE2 :: 0x80 :: c :: s) = (code, 3) := by
    simp only [List.forall_mem_cons]
    exact ⟨⟨_, fun _ => rfl⟩, ⟨_, fun _ => rfl⟩, ⟨_, fun _ => rfl⟩, ⟨_, fun _ => rfl⟩, ⟨_, fun _ => rfl⟩, ⟨_, fun _ => rfl⟩,
      ⟨_, fun _ => rfl⟩, by simp⟩
  obtain ⟨code, hcode⟩ := hdecode c (mem_of_mark? h)
  exact ⟨code, Utf8.codePoints_of_decode (s := [0xE2, 0x80, c]) (List.cons_ne_nil _ _) (hcode s)⟩

lemma mark?_cons_cons_cons (a b c : UInt8) (s : Bytes) : mark? (a :: b :: c :: s) = mark? [a, b, c] := by
  rw [mark?.eq_def, mark?.eq_def]
  by_cases h : a = 0xE2 ∧ b = 0x80
  · obtain ⟨rfl, rfl⟩ := h
    rfl
  · have hnone : ∀ (s : Bytes), mark? (a :: b :: c :: s) = none := fun s => by
      rw [mark?.eq_def]
      split
      · rename_i heq
        simp only [List.cons.injEq] at heq
        exact absurd ⟨heq.1, heq.2.1⟩ h
      · rfl
    rw [← mark?.eq_def, ← mark?.eq_def, hnone, hnone]

lemma mark?_append (h : ∀ c ∈ t.head?, c < 0x80) (b : UInt8) (s : Bytes) : mark? (b :: (s ++ t)) = mark? (b :: s) := by
  have hshort : ∀ s : Bytes, (∀ c d u, s = c :: d :: u → d < 0x80 ∨ c < 0x80) → mark? (b :: s) = none := by
    intro s hs
    by_contra hne
    obtain ⟨m, hm⟩ := Option.ne_none_iff_exists'.mp hne
    obtain ⟨d, u, he, -⟩ := exists_of_mark? hm
    rcases hs _ _ _ (List.cons.inj he).2 with hlt | hlt
    · exact not_lt_of_mark? (he ▸ hm) hlt
    · exact absurd hlt (by decide)
  cases s with
  | nil =>
    rw [List.nil_append, hshort t fun c d u he => .inr (h c (by rw [he]; rfl)), hshort [] (by simp)]
  | cons c s =>
    cases s with
    | nil =>
      rw [hshort [c] (by simp), hshort]
      rintro c' d u he
      obtain ⟨-, rfl⟩ : c = c' ∧ t = d :: u := by simpa using he
      exact .inl (h d rfl)
    | cons d s => rw [List.cons_append, List.cons_append, mark?_cons_cons_cons, mark?_cons_cons_cons b c d s]

theorem marks_induction {motive : Bytes → Prop} (nil : motive [])
    (byte : ∀ b s, mark? (b :: s) = none → motive s → motive (b :: s))
    (mark : ∀ m c s, mark? (0xE2 :: 0x80 :: c :: s) = some m → motive s → motive (0xE2 :: 0x80 :: c :: s)) (s : Bytes) :
    motive s := by
  induction hn : s.length using Nat.strong_induction_on generalizing s with
  | _ n ih =>
    cases s with
    | nil => exact nil
    | cons b s =>
      cases hm : mark? (b :: s) with
      | none => exact byte b s hm (ih s.length (by simp [← hn]) s rfl)
      | some m =>
        obtain ⟨c, t, he, -⟩ := exists_of_mark? hm
        rw [he] at hm hn ⊢
        exact mark m c t hm (ih t.length (by simp [← hn]; omega) t rfl)

def spell (spelling : Mark → Bytes) (s : Bytes) : Bytes := replaceFrom spelling 0 s

variable {spelling : Mark → Bytes}

@[simp] lemma spell_nil : spell spelling [] = [] := rfl

lemma spell_cons (h : mark? (b :: s) = none) : spell spelling (b :: s) = b :: spell spelling s := by
  rw [spell, replaceFrom, h]
  rfl

lemma spell_mark {c : UInt8} (h : mark? (0xE2 :: 0x80 :: c :: s) = some m) :
    spell spelling (0xE2 :: 0x80 :: c :: s) = spelling m ++ spell spelling s := by
  rw [spell, replaceFrom, h]
  rfl

lemma spell_append (h : ∀ c ∈ t.head?, c < 0x80) : spell spelling (s ++ t) = spell spelling s ++ spell spelling t := by
  induction s using marks_induction with
  | nil => rfl
  | byte b s hm ih => rw [List.cons_append, spell_cons (by rw [mark?_append h, hm]), ih, spell_cons hm, List.cons_append]
  | mark m c s hm ih =>
    have hm' : mark? (0xE2 :: 0x80 :: c :: (s ++ t)) = some m := by rw [mark?_cons_cons_cons, ← mark?_cons_cons_cons _ _ c s, hm]
    rw [List.cons_append, List.cons_append, List.cons_append, spell_mark hm', ih, spell_mark hm, List.append_assoc]

lemma spell_ascii_append (h : ∀ c ∈ s, c < 0x80) (t : Bytes) : spell spelling (s ++ t) = s ++ spell spelling t := by
  induction s with
  | nil => rfl
  | cons b s ih =>
    rw [List.forall_mem_cons] at h
    rw [List.cons_append, spell_cons (mark?_eq_none_of_lt h.1 _), ih h.2, List.cons_append]

lemma spell_ascii (h : ∀ c ∈ s, c < 0x80) : spell spelling s = s := by simpa using spell_ascii_append h []

/-! ### Spelling in a body -/

def isSpelling (b : UInt8) : Bool := (utf8 "&apos;qut-").contains b

lemma entities_ne_nil (m : Mark) : entities m ≠ [] := by cases m <;> decide

lemma isSpelling_of_mem_entities (h : b ∈ entities m) : isSpelling b = true := by
  revert b
  cases m <;> decide +kernel

lemma lt_of_isSpelling (h : isSpelling b = true) : b < 0x80 := by
  have hall : ∀ b ∈ utf8 "&apos;qut-", b < 0x80 := by decide +kernel
  exact hall b (by simpa [isSpelling] using h)

lemma mem_spell (h : b ∈ spell entities s) : b ∈ s ∨ isSpelling b = true := by
  induction s using marks_induction with
  | nil => exact .inl h
  | byte c s hm ih =>
    rw [spell_cons hm, List.mem_cons] at h
    rcases h with rfl | h
    · exact .inl List.mem_cons_self
    · exact (ih h).imp_left (List.mem_cons_of_mem c)
  | mark m c s hm ih =>
    rw [spell_mark hm, List.mem_append] at h
    rcases h with h | h
    · exact .inr (isSpelling_of_mem_entities h)
    · exact (ih h).imp_left fun hb => List.mem_cons_of_mem _ (List.mem_cons_of_mem _ (List.mem_cons_of_mem _ hb))

lemma spell_eq_nil_iff : spell entities s = [] ↔ s = [] := by
  cases s using marks_induction with
  | nil => simp
  | byte c s hm => simp [spell_cons hm]
  | mark m c s hm => simp [spell_mark hm, entities_ne_nil]

lemma head?_spell (s : Bytes) :
    (spell entities s).head? = s.head? ∨ (∃ m, mark? s = some m ∧ (spell entities s).head? = (entities m).head?) := by
  cases s using marks_induction with
  | nil => exact .inl rfl
  | byte c s hm => exact .inl (by rw [spell_cons hm]; rfl)
  | mark m c s hm => exact .inr ⟨m, hm, by rw [spell_mark hm, List.head?_append_of_ne_nil _ (entities_ne_nil m)]⟩

lemma head?_spell_ne (hb : isSpelling b = false) (h : s.head? ≠ some b) : (spell entities s).head? ≠ some b := by
  rcases head?_spell s with he | ⟨m, -, he⟩
  · rwa [he]
  · rw [he]
    intro hm
    have hspelled := isSpelling_of_mem_entities (List.mem_of_head? hm)
    rw [hb] at hspelled
    cases hspelled

lemma getLast?_spell (s : Bytes) :
    (spell entities s).getLast? = s.getLast? ∨
      (∃ c ∈ s.getLast?, ¬ c < 0x80) ∧ ∃ c ∈ (spell entities s).getLast?, isSpelling c = true := by
  induction s using marks_induction with
  | nil => exact .inl rfl
  | byte b s hm ih =>
    rw [spell_cons hm, List.getLast?_cons, List.getLast?_cons]
    rcases ih with h | ⟨⟨c, hc, hlt⟩, d, hd, hs⟩
    · exact .inl (by rw [h])
    · rw [Option.mem_def] at hc hd
      exact .inr ⟨⟨c, by rw [hc]; rfl, hlt⟩, d, by rw [hd]; rfl, hs⟩
  | mark m c s hm ih =>
    rw [spell_mark hm]
    by_cases hs : s = []
    · rw [hs, spell_nil, List.append_nil]
      exact .inr ⟨⟨c, rfl, not_lt_of_mark? hm⟩, _, List.getLast?_eq_some_getLast (entities_ne_nil m),
        isSpelling_of_mem_entities (List.getLast_mem (entities_ne_nil m))⟩
    · have hlast : (0xE2 :: 0x80 :: c :: s).getLast? = s.getLast? := by
        obtain ⟨d, t, rfl⟩ := List.exists_cons_of_ne_nil hs
        simp only [List.getLast?_cons_cons]
      rwa [List.getLast?_append_of_ne_nil _ (mt spell_eq_nil_iff.mp hs), hlast]

lemma getLast?_spell_ne (hb : isSpelling b = false) (h : s.getLast? ≠ some b) : (spell entities s).getLast? ≠ some b := by
  rcases getLast?_spell s with he | ⟨-, d, hd, hs⟩
  · rwa [he]
  · rw [hd]
    rintro he
    rw [Option.some.inj he, hb] at hs
    cases hs

lemma mem_spell_iff (hb : b < 0x80) (hs : isSpelling b = false) : b ∈ spell entities s ↔ b ∈ s := by
  refine ⟨fun h => (mem_spell h).resolve_right (by simp [hs]), fun h => ?_⟩
  induction s using marks_induction with
  | nil => cases h
  | byte c s hm ih =>
    rw [spell_cons hm]
    rcases List.mem_cons.mp h with rfl | h
    · exact List.mem_cons_self
    · exact List.mem_cons_of_mem c (ih h)
  | mark m c s hm ih =>
    rw [spell_mark hm]
    refine List.mem_append_right _ (ih ?_)
    rw [List.mem_cons, List.mem_cons, List.mem_cons] at h
    rcases h with rfl | rfl | rfl | h
    · exact absurd hb (by decide)
    · exact absurd hb (by decide)
    · exact absurd hb (not_lt_of_mark? hm)
    · exact h

section

variable {p : UInt8 → Bool} (hp : ∀ b, p b = true → b < 0x80 ∧ isSpelling b = false)
include hp

lemma cut_spell (s : Bytes) :
    (spell entities s).takeWhile p = s.takeWhile p ∧ (spell entities s).dropWhile p = spell entities (s.dropWhile p) := by
  induction s with
  | nil => exact ⟨rfl, rfl⟩
  | cons b s ih =>
    cases hm : mark? (b :: s) with
    | none =>
      rw [spell_cons hm]
      by_cases hb : p b = true
      · rw [List.takeWhile_cons_of_pos hb, List.takeWhile_cons_of_pos hb, List.dropWhile_cons_of_pos hb,
          List.dropWhile_cons_of_pos hb, ih.1, ih.2]
        exact ⟨rfl, rfl⟩
      · rw [List.takeWhile_cons_of_neg hb, List.takeWhile_cons_of_neg hb, List.dropWhile_cons_of_neg hb,
          List.dropWhile_cons_of_neg hb, spell_cons hm]
        exact ⟨rfl, rfl⟩
    | some m =>
      obtain ⟨c, t, he, -⟩ := exists_of_mark? hm
      have hb : ¬ p b = true := fun hb => by
        have hlt := (hp b hb).1
        rw [(List.cons.inj he).1] at hlt
        exact absurd hlt (by decide)
      obtain ⟨d, u, hd⟩ := List.exists_cons_of_ne_nil (entities_ne_nil m)
      have hd' : ¬ p d = true := fun h => by
        have hspelled := isSpelling_of_mem_entities (m := m) (hd ▸ List.mem_cons_self)
        rw [(hp d h).2] at hspelled
        cases hspelled
      rw [List.takeWhile_cons_of_neg hb, List.dropWhile_cons_of_neg hb]
      rw [he] at hm ⊢
      rw [spell_mark hm, hd, List.cons_append, List.takeWhile_cons_of_neg hd', List.dropWhile_cons_of_neg hd']
      exact ⟨rfl, rfl⟩

lemma takeWhile_spell (s : Bytes) : (spell entities s).takeWhile p = s.takeWhile p := (cut_spell hp s).1

lemma dropWhile_spell (s : Bytes) : (spell entities s).dropWhile p = spell entities (s.dropWhile p) := (cut_spell hp s).2

lemma drop_spell {n : Nat} (s : Bytes) (h : n ≤ (s.takeWhile p).length) :
    (spell entities s).drop n = spell entities (s.drop n) := by
  have hlt : ∀ c ∈ (s.takeWhile p).take n, c < 0x80 := fun c hc => (hp c (List.mem_takeWhile_imp (List.take_subset _ _ hc))).1
  have hn : ((s.takeWhile p).take n).length = n := by rw [List.length_take, Nat.min_eq_left h]
  have hsplit : s = (s.takeWhile p).take n ++ ((s.takeWhile p).drop n ++ s.dropWhile p) := by
    rw [← List.append_assoc, List.take_append_drop, List.takeWhile_append_dropWhile]
  rw [hsplit, spell_ascii_append hlt, List.drop_left' hn, List.drop_left' hn]

lemma all_spell (s : Bytes) : (spell entities s).all p = s.all p := by
  have hall : ∀ s : Bytes, s.all p = true ↔ s.dropWhile p = [] := fun s => by
    rw [List.all_eq_true, List.dropWhile_eq_nil_iff]
  rw [Bool.eq_iff_iff, hall, hall, dropWhile_spell hp, spell_eq_nil_iff]

end

def hasMark (s : Bytes) : Bool := s.tails.any fun t => (mark? t).isSome

lemma hasMark_cons (b : UInt8) (s : Bytes) : hasMark (b :: s) = ((mark? (b :: s)).isSome || hasMark s) := rfl

end MarkdownTidy.Punctuation
