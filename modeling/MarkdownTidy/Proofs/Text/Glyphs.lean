import Mathlib.Data.List.DropRight
import MarkdownTidy.Document.TextCursor
import MarkdownTidy.Html.Markup

/-! Texts that are read with backslash escapes. A backslash in front of punctuation hides it; what is
not hidden stands for itself. -/

namespace MarkdownTidy

inductive Glyph where
  | plain (b : UInt8)
  /-- A byte behind a backslash that hides it. -/
  | hidden (b : UInt8)
  deriving DecidableEq, Repr

namespace Glyph

def byte : Glyph → UInt8
  | plain b | hidden b => b

def bytes : Glyph → Bytes
  | plain b => [b]
  | hidden b => [92, b]

end Glyph

def glyphs : Bytes → List Glyph
  | [] => []
  | [b] => [.plain b]
  | b :: c :: rest =>
    if b == 92 && Bytes.isPunct c then .hidden c :: glyphs rest else .plain b :: glyphs (c :: rest)

def Hangs (s : Bytes) : Prop := (glyphs s).getLast? = some (.plain 92)

instance (s : Bytes) : Decidable (Hangs s) := inferInstanceAs (Decidable (_ = _))

@[simp] lemma glyphs_nil : glyphs [] = [] := rfl

lemma glyphs_plain {b : UInt8} {s : Bytes} (h : hidesNext b s = false) :
    glyphs (b :: s) = .plain b :: glyphs s := by
  cases s with
  | nil => rfl
  | cons c s =>
    rw [glyphs, if_neg]
    simpa [hidesNext, MarkdownTidy.byte] using h

lemma glyphs_hidden {c : UInt8} (h : Bytes.isPunct c = true) (s : Bytes) :
    glyphs (92 :: c :: s) = .hidden c :: glyphs s := by
  rw [glyphs, if_pos (by simp [h])]

@[elab_as_elim]
lemma glyph_induction {motive : Bytes → Prop} (nil : motive [])
    (plain : ∀ b s, hidesNext b s = false → motive s → motive (b :: s))
    (hidden : ∀ c s, Bytes.isPunct c = true → motive s → motive (92 :: c :: s)) (s : Bytes) : motive s := by
  induction s using glyphs.induct with
  | case1 => exact nil
  | case2 b => exact plain b [] (by simp [hidesNext]) nil
  | case3 b c rest h ih =>
    obtain ⟨rfl, hc⟩ : b = 92 ∧ Bytes.isPunct c = true := by simpa using h
    exact hidden c rest hc ih
  | case4 b c rest h ih => exact plain b _ (by simpa [hidesNext, MarkdownTidy.byte] using h) ih

@[elab_as_elim]
lemma glyph_cases {motive : Bytes → Prop} (nil : motive []) (plain : ∀ b s, hidesNext b s = false → motive (b :: s))
    (hidden : ∀ c s, Bytes.isPunct c = true → motive (92 :: c :: s)) (s : Bytes) : motive s :=
  glyph_induction nil (fun b s h _ => plain b s h) (fun c s h _ => hidden c s h) s

lemma flatMap_bytes_glyphs (s : Bytes) : (glyphs s).flatMap Glyph.bytes = s := by
  induction s using glyph_induction with
  | nil => rfl
  | plain b s h ih => rw [glyphs_plain h, List.flatMap_cons, ih]; rfl
  | hidden c s h ih => rw [glyphs_hidden h, List.flatMap_cons, ih]; rfl

lemma map_byte_glyphs (s : Bytes) : (glyphs s).map Glyph.byte = Html.unescapePunctuation s := by
  induction s using glyph_induction with
  | nil => rfl
  | plain b s h ih =>
    rw [glyphs_plain h, List.map_cons, ih]
    cases s with
    | nil => rfl
    | cons c s =>
      rw [Html.unescapePunctuation, if_neg]
      · rfl
      · simpa [hidesNext] using h
  | hidden c s h ih =>
    rw [glyphs_hidden h, List.map_cons, ih, Html.unescapePunctuation, if_pos (by simp [h, byte])]
    rfl

lemma mem_of_plain {b : UInt8} {s : Bytes} (h : Glyph.plain b ∈ glyphs s) : b ∈ s := by
  rw [← flatMap_bytes_glyphs s, List.mem_flatMap]
  exact ⟨_, h, List.mem_singleton_self b⟩

lemma hangs_plain {b : UInt8} {s : Bytes} (h : hidesNext b s = false) :
    Hangs (b :: s) ↔ if s = [] then b = 92 else Hangs s := by
  rw [Hangs, glyphs_plain h]
  cases s with
  | nil => simp
  | cons c s =>
    have hne : glyphs (c :: s) ≠ [] := by
      intro h0
      have hs := flatMap_bytes_glyphs (c :: s)
      rw [h0] at hs
      cases hs
    rw [List.getLast?_cons_of_ne_nil hne, if_neg (by simp)]
    rfl

lemma hangs_cons {b : UInt8} {s : Bytes} (h : hidesNext b s = false) (hs : Hangs s) : Hangs (b :: s) := by
  rw [hangs_plain h, if_neg]
  · exact hs
  · rintro rfl
    cases hs

lemma hangs_hidden {c : UInt8} (h : Bytes.isPunct c = true) (s : Bytes) : Hangs (92 :: c :: s) ↔ Hangs s := by
  rw [Hangs, glyphs_hidden h]
  cases hs : glyphs s with
  | nil => simp [Hangs, hs]
  | cons g gs => simp [Hangs, hs]

lemma not_hangs_nil : ¬ Hangs [] := by simp [Hangs]

lemma hidesNext_append {b : UInt8} {s t : Bytes} (h : hidesNext b s = false)
    (hb : s = [] → b = 92 → ∀ c ∈ t.head?, Bytes.isPunct c = false) : hidesNext b (s ++ t) = false := by
  cases s with
  | cons c s => simpa [hidesNext] using h
  | nil =>
    rw [List.nil_append, hidesNext, Bool.and_eq_false_iff]
    by_cases hc : b = 92
    · exact Or.inr (by simpa [Option.any_eq_false] using hb rfl hc)
    · exact Or.inl (by simpa [byte] using hc)

lemma glyphs_append {s t : Bytes} (h : Hangs s → ∀ c ∈ t.head?, Bytes.isPunct c = false) :
    glyphs (s ++ t) = glyphs s ++ glyphs t := by
  induction s using glyph_induction with
  | nil => rfl
  | plain b s hb ih =>
    rw [hangs_plain hb] at h
    have hs : hidesNext b (s ++ t) = false :=
      hidesNext_append hb fun h0 h92 => h (by rw [if_pos h0]; exact h92)
    rw [List.cons_append, glyphs_plain hs, glyphs_plain hb, List.cons_append]
    congr 1
    apply ih
    by_cases h0 : s = []
    · subst h0
      exact fun h' => absurd h' not_hangs_nil
    · rwa [if_neg h0] at h
  | hidden c s hc ih =>
    rw [hangs_hidden hc] at h
    rw [List.cons_append, List.cons_append, glyphs_hidden hc, glyphs_hidden hc, List.cons_append, ih h]

lemma glyphs_append_of_not_hangs {s : Bytes} (h : ¬ Hangs s) (t : Bytes) :
    glyphs (s ++ t) = glyphs s ++ glyphs t :=
  glyphs_append fun h' => absurd h' h

lemma not_hangs_of_notMem {s : Bytes} (h : 92 ∉ s) : ¬ Hangs s :=
  fun hs => h (mem_of_plain (List.mem_of_getLast? hs))

lemma Hangs.append_left {s t : Bytes} (ht : Hangs t) (hs : ¬ Hangs s) : Hangs (s ++ t) := by
  rw [Hangs, glyphs_append_of_not_hangs hs, List.getLast?_append, ht, Option.some_or]

lemma not_hangs_append {s t : Bytes} (hs : ¬ Hangs s) (ht : ¬ Hangs t) : ¬ Hangs (s ++ t) := by
  rw [Hangs, glyphs_append_of_not_hangs hs, List.getLast?_append]
  cases h : (glyphs t).getLast? with
  | none => exact hs
  | some g =>
    rw [Hangs, h] at ht
    simpa using ht

lemma hangs_concat {s : Bytes} {b : UInt8} (h : Hangs s → Bytes.isPunct b = false) :
    Hangs (s ++ [b]) ↔ b = 92 := by
  rw [Hangs, glyphs_append (by simpa using h)]
  simp [glyphs]

/-! ### Escaping -/

def escapeIn (p : UInt8 → Bool) (s : Bytes) : Bytes := s.flatMap fun b => if p b then [92, b] else [b]

def Glyph.escaped (p : UInt8 → Bool) : Glyph → List Glyph
  | .plain b => if p b then [.hidden b] else [.plain b]
  | .hidden b => if p b then [.hidden 92, .plain b] else [.hidden b]

def Glyph.isHidden (p : UInt8 → Bool) : Glyph → Bool
  | .plain _ => false
  | .hidden b => p b

section Escaping

variable {p : UInt8 → Bool}

lemma escapeIn_cons (p : UInt8 → Bool) (b : UInt8) (s : Bytes) :
    escapeIn p (b :: s) = (if p b then [92, b] else [b]) ++ escapeIn p s := List.flatMap_cons

lemma hidesNext_escapeIn (hp : ∀ b, p b = true → Bytes.isPunct b = true) {b : UInt8} {s : Bytes}
    (h : hidesNext b s = false) : hidesNext b (escapeIn p s) = false := by
  cases s with
  | nil => simp [escapeIn, hidesNext]
  | cons c s =>
    rw [hidesNext, List.head?_cons, Option.any_some, Bool.and_eq_false_iff] at h
    rw [hidesNext, Bool.and_eq_false_iff]
    refine h.imp_right fun hc => ?_
    have hpc : p c = false := by
      by_contra hne
      rw [hp c (by simpa using hne)] at hc
      cases hc
    rw [escapeIn_cons, hpc]
    simpa using hc

lemma glyphs_escapeIn (hp : ∀ b, p b = true → Bytes.isPunct b = true) (h92 : p 92 = false) (s : Bytes) :
    glyphs (escapeIn p s) = (glyphs s).flatMap (Glyph.escaped p) := by
  induction s using glyph_induction with
  | nil => rfl
  | plain b s hb ih =>
    rw [glyphs_plain hb, List.flatMap_cons, escapeIn_cons, Glyph.escaped, ← ih]
    by_cases hpb : p b = true
    · simp [hpb, glyphs_hidden (hp b hpb)]
    · simp [hpb, glyphs_plain (hidesNext_escapeIn hp hb)]
  | hidden c s hc ih =>
    rw [glyphs_hidden hc, List.flatMap_cons, escapeIn_cons, escapeIn_cons, Glyph.escaped, ← ih]
    by_cases hpc : p c = true
    · have hne : c ≠ 92 := by
        rintro rfl
        rw [h92] at hpc
        cases hpc
      have hplain : hidesNext c (escapeIn p s) = false := by simp [hidesNext, byte, hne]
      have hback : Bytes.isPunct 92 = true := by decide
      simp [h92, hpc, glyphs_hidden hback, glyphs_plain hplain]
    · simp [h92, hpc, glyphs_hidden hc]

lemma hangs_escapeIn (hp : ∀ b, p b = true → Bytes.isPunct b = true) (h92 : p 92 = false) (s : Bytes) :
    Hangs (escapeIn p s) ↔ Hangs s := by
  rw [Hangs, Hangs, glyphs_escapeIn hp h92]
  induction glyphs s using List.reverseRecOn with
  | nil => simp
  | append_singleton gs g =>
    rw [List.flatMap_append, List.flatMap_singleton, List.getLast?_concat]
    cases g with
    | plain b =>
      by_cases hb : p b = true
      · have hne : b ≠ 92 := by
          rintro rfl
          rw [h92] at hb
          cases hb
        simp [Glyph.escaped, hb, hne]
      · simp [Glyph.escaped, hb]
    | hidden b =>
      by_cases hb : p b = true
      · have hne : b ≠ 92 := by
          rintro rfl
          rw [h92] at hb
          cases hb
        simp [Glyph.escaped, hb, hne]
      · simp [Glyph.escaped, hb]

lemma plain_mem_glyphs_escapeIn (hp : ∀ b, p b = true → Bytes.isPunct b = true) (h92 : p 92 = false)
    {c : UInt8} (hc : p c = true) (s : Bytes) :
    Glyph.plain c ∈ glyphs (escapeIn p s) ↔ Glyph.hidden c ∈ glyphs s := by
  rw [glyphs_escapeIn hp h92, List.mem_flatMap]
  constructor
  · rintro ⟨g, hg, hm⟩
    cases g with
    | plain b =>
      by_cases hb : p b = true
      · simp [Glyph.escaped, hb] at hm
      · have hcb : c = b := by simpa [Glyph.escaped, hb] using hm
        subst hcb
        exact absurd hc hb
    | hidden b =>
      by_cases hb : p b = true
      · have hcb : c = b := by simpa [Glyph.escaped, hb] using hm
        rwa [hcb]
      · simp [Glyph.escaped, hb] at hm
  · intro h
    exact ⟨_, h, by simp [Glyph.escaped, hc]⟩

lemma unescapePunctuation_escapeIn (hp : ∀ b, p b = true → Bytes.isPunct b = true) (h92 : p 92 = false)
    {s : Bytes} (h : ∀ c, p c = true → Glyph.hidden c ∉ glyphs s) :
    Html.unescapePunctuation (escapeIn p s) = Html.unescapePunctuation s := by
  rw [← map_byte_glyphs, ← map_byte_glyphs, glyphs_escapeIn hp h92, List.map_flatMap, List.map_eq_flatMap]
  refine List.flatMap_congr fun g hg => ?_
  cases g with
  | plain b => by_cases hb : p b = true <;> simp [Glyph.escaped, Glyph.byte, hb]
  | hidden b =>
    have hb : ¬ p b = true := fun hb => h b hb hg
    simp [Glyph.escaped, Glyph.byte, hb]

end Escaping

end MarkdownTidy
