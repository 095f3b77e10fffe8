import Mathlib.Data.List.DropRight
import MarkdownTidy.Proofs.Bytes.Cutting
import MarkdownTidy.Proofs.Text.CodePoints
import MarkdownTidy.Writer.Layout

/-! Lines behind prefixes. Every line of a text gets its prefix and keeps its content; where the line is white
space, the blanks at the end of the prefix go. Prefixing what is prefixed already is prefixing it once, with the
outer prefix in front of the inner one, exactly if the inner prefix is nothing but blanks or shows in front of
every line. -/

namespace MarkdownTidy.Writer

open Bytes (newline split join)

variable {a b c d l m s first rest : Bytes}

/-! ### White space -/

lemma isBlankText_eq_true : isBlankText s = true ↔ ∀ r ∈ Utf8.codePoints s, Text.isBlank r.code = true :=
  List.all_eq_true

lemma isBlankText_eq_false : isBlankText s = false ↔ ∃ r ∈ Utf8.codePoints s, Text.isBlank r.code = false := by
  simp [isBlankText]

lemma isBlankText_append {x : UInt8} (hx : Utf8.isStart x = true) (s t : Bytes) :
    isBlankText (s ++ x :: t) = (isBlankText s && isBlankText (x :: t)) := by
  rw [isBlankText, Utf8.codePoints_append hx, List.all_append]
  rfl

lemma isBlankText_append_blank {t : Bytes} (ht : isBlankText t = true) (s : Bytes) :
    isBlankText (s ++ t) = isBlankText s := by
  cases t with
  | nil => rw [List.append_nil]
  | cons x t =>
    have hx : Utf8.isStart x = true := by
      by_contra hx
      rw [isBlankText, Utf8.codePoints_cons, Utf8.decode_of_not_isStart (Bool.not_eq_true _ ▸ hx)] at ht
      cases ht
    rw [isBlankText_append hx, ht, Bool.and_true]

/-! ### What stays visible -/

def Visible (s : Bytes) : Prop := ∀ t, isBlankText (s ++ t) = false

def HasCharacter (s : Bytes) : Prop :=
  ∃ r ∈ Utf8.codePoints s, r.isInvalid = false ∧ Text.isBlank r.code = false

instance (s : Bytes) : Decidable (HasCharacter s) :=
  inferInstanceAs (Decidable (∃ r ∈ Utf8.codePoints s, r.isInvalid = false ∧ Text.isBlank r.code = false))

lemma HasCharacter.visible (h : HasCharacter s) : Visible s := by
  obtain ⟨r, hr, hvalid, hblank⟩ := h
  exact fun t => isBlankText_eq_false.mpr ⟨r, Utf8.mem_codePoints_append hr hvalid t, hblank⟩

lemma isBlankText_pads_append (h : ∀ b ∈ s, isPadding b = true) (t : Bytes) : isBlankText (s ++ t) = isBlankText t := by
  induction s with
  | nil => rfl
  | cons b s ih =>
    rw [List.forall_mem_cons] at h
    have hb : b < 0x80 ∧ Text.isBlank b.toNat = true := by
      have hpad := h.1
      simp only [isPadding, Bool.or_eq_true, beq_iff_eq] at hpad
      rcases hpad with rfl | rfl <;> decide
    rw [List.cons_append, isBlankText, Utf8.codePoints_ascii_cons hb.1, List.all_cons, hb.2, Bool.true_and]
    exact ih h.2

lemma isBlankText_of_isPadding (h : ∀ b ∈ s, isPadding b = true) : isBlankText s = true := by
  rw [← List.append_nil s, isBlankText_pads_append h]
  rfl

/-! ### One line -/

lemma prefixLine_eq (m l : Bytes) : prefixLine m l = if isBlankText l then Bytes.trimRight isPadding m else m ++ l := rfl

lemma prefixLine_blank (hl : isBlankText l = true) : prefixLine m l = Bytes.trimRight isPadding m := by
  rw [prefixLine_eq, if_pos hl]

lemma prefixLine_text (hl : isBlankText l = false) : prefixLine m l = m ++ l := by
  rw [prefixLine_eq, hl, if_neg Bool.false_ne_true]

lemma isBlankText_trimRight (m : Bytes) : isBlankText (Bytes.trimRight isPadding m) = isBlankText m := by
  obtain ⟨pad, hm, hpad⟩ := Bytes.exists_trimRight isPadding m
  conv_rhs => rw [hm]
  rw [isBlankText_append_blank (isBlankText_of_isPadding hpad)]

lemma newline_notMem_prefixLine (hm : newline ∉ m) (hl : newline ∉ l) : newline ∉ prefixLine m l := by
  rw [prefixLine_eq]
  split
  · rw [Bytes.trimRight_eq_rdropWhile]
    exact fun h => hm ((List.rdropWhile_prefix _ _).subset h)
  · rw [List.mem_append, not_or]
    exact ⟨hm, hl⟩

/-! ### One line behind two prefixes -/

def CarriesLine (a l : Bytes) : Prop := (∀ b ∈ a, isPadding b = true) ∨ isBlankText (a ++ l) = false

lemma prefixLine_prefixLine (ha : CarriesLine a l) (c : Bytes) : prefixLine c (prefixLine a l) = prefixLine (c ++ a) l := by
  cases hl : isBlankText l with
  | true =>
    rw [prefixLine_blank hl, prefixLine_blank hl]
    rcases ha with hpad | hvisible
    · have hnil : Bytes.trimRight isPadding a = [] := by
        rw [Bytes.trimRight_eq_rdropWhile, List.rdropWhile_eq_nil_iff]
        exact hpad
      rw [hnil, Bytes.trimRight_append_of_all hpad, prefixLine_blank rfl]
    · have htrim : isBlankText (Bytes.trimRight isPadding a) = false := by
        rw [isBlankText_trimRight, ← isBlankText_append_blank hl, hvisible]
      have hne : Bytes.trimRight isPadding a ≠ [] := fun hnil => by rw [hnil] at htrim; cases htrim
      rw [prefixLine_text htrim, Bytes.trimRight_append_of_ne_nil hne]
  | false =>
    have hinner : isBlankText (a ++ l) = false := by
      rcases ha with hpad | hvisible
      · rwa [isBlankText_pads_append hpad]
      · exact hvisible
    rw [prefixLine_text hl, prefixLine_text hl, prefixLine_text hinner, List.append_assoc]

def Carries (a : Bytes) : Prop := (∀ b ∈ a, isPadding b = true) ∨ Visible a

lemma Carries.line (h : Carries a) (l : Bytes) : CarriesLine a l := h.imp_right fun hvisible => hvisible l

lemma carries_of_prefixLine (h : ∀ l, newline ∉ l → prefixLine [] (prefixLine a l) = prefixLine a l) : Carries a := by
  have hempty : ∀ l, newline ∉ l → isBlankText (prefixLine a l) = true → prefixLine a l = [] := by
    intro l hl hblank
    rw [← h l hl, prefixLine_blank hblank]
    rfl
  by_cases hnil : Bytes.trimRight isPadding a = []
  · rw [Bytes.trimRight_eq_rdropWhile, List.rdropWhile_eq_nil_iff] at hnil
    exact .inl hnil
  have ha : isBlankText a = false := by
    by_contra hblank
    rw [Bool.not_eq_false, ← isBlankText_trimRight] at hblank
    exact hnil (hempty [] (by simp) hblank)
  refine .inr fun t => ?_
  by_contra hblank
  rw [Bool.not_eq_false] at hblank
  -- what turns the prefix into white space does so on its first line
  obtain ⟨l, hl, hjoined⟩ : ∃ l, newline ∉ l ∧ isBlankText (a ++ l) = true := by
    obtain ⟨l, hl, rfl | ⟨u, rfl⟩⟩ := Bytes.exists_line t
    · exact ⟨t, hl, hblank⟩
    · rw [← List.append_assoc, isBlankText_append rfl, Bool.and_eq_true] at hblank
      exact ⟨l, hl, hblank.1⟩
  cases hline : isBlankText l with
  | true => rw [isBlankText_append_blank hline, ha] at hjoined; cases hjoined
  | false =>
    have hlost := hempty l hl
    rw [prefixLine_text hline] at hlost
    obtain ⟨rfl, -⟩ := List.append_eq_nil_iff.mp (hlost hjoined)
    exact hnil rfl

/-! ### Texts -/

lemma split_prefixLines {l : Bytes} {ls : List Bytes} (h : split newline s = l :: ls) (hf : newline ∉ first)
    (hr : newline ∉ rest) :
    split newline (prefixLines s first rest) = prefixLine first l :: ls.map (prefixLine rest) := by
  obtain ⟨ks, t, hsplit, -, hlines⟩ := Bytes.exists_split s
  rw [← hsplit, h, List.forall_mem_cons] at hlines
  rw [prefixLines, h]
  refine Bytes.split_join (List.cons_ne_nil _ _) (List.forall_mem_cons.mpr ⟨newline_notMem_prefixLine hf hlines.1, ?_⟩)
  intro x hx
  obtain ⟨k, hk, rfl⟩ := List.mem_map.mp hx
  exact newline_notMem_prefixLine hr (hlines.2 k hk)

lemma prefixLines_prefixLines (ha : newline ∉ a) (hb : newline ∉ b)
    (hs : ∀ l ∈ split newline s, CarriesLine a l ∧ CarriesLine b l) (c d : Bytes) :
    prefixLines (prefixLines s a b) c d = prefixLines s (c ++ a) (d ++ b) := by
  obtain ⟨l, ls, hsplit⟩ := List.exists_cons_of_ne_nil (Bytes.split_ne_nil s)
  rw [hsplit, List.forall_mem_cons] at hs
  rw [prefixLines, split_prefixLines hsplit ha hb, prefixLines, hsplit]
  simp only [List.map_map, prefixLine_prefixLine hs.1.1]
  congr 2
  exact List.map_congr_left fun k hk => prefixLine_prefixLine (hs.2 k hk).2 d

theorem prefixLines_prefixLines_iff (ha : newline ∉ a) (hb : newline ∉ b) :
    (∀ s c d, prefixLines (prefixLines s a b) c d = prefixLines s (c ++ a) (d ++ b)) ↔ Carries a ∧ Carries b := by
  refine ⟨fun h => ?_, fun h s c d => prefixLines_prefixLines ha hb (fun l _ => ⟨h.1.line l, h.2.line l⟩) c d⟩
  have hlines : ∀ {l : Bytes} {ls : List Bytes} {s : Bytes}, split newline s = l :: ls →
      prefixLine [] (prefixLine a l) = prefixLine a l ∧
        (ls.map (prefixLine b)).map (prefixLine []) = ls.map (prefixLine b) := by
    intro l ls s hs
    have hsplit := congrArg (split newline) (h s [] [])
    rw [split_prefixLines (split_prefixLines hs ha hb) (by simp) (by simp), List.nil_append, List.nil_append,
      split_prefixLines hs ha hb] at hsplit
    exact List.cons.inj hsplit
  constructor
  · exact carries_of_prefixLine fun l hl => (hlines (Bytes.split_of_notMem hl)).1
  · refine carries_of_prefixLine fun l hl => ?_
    have hs : split newline (newline :: l) = [[], l] := by
      rw [← List.nil_append (newline :: l), Bytes.split_append_newline (by simp), Bytes.split_of_notMem hl]
    exact (List.cons.inj (hlines hs).2).1

/-- What a line is written as behind a prefix. -/
inductive Prefixed (m : Bytes) : Bytes → Bytes → Prop
  | text {l : Bytes} (h : ∃ r ∈ Utf8.codePoints l, Text.isBlank r.code = false) : Prefixed m l (m ++ l)
  | blank {l kept pad : Bytes} (h : ∀ r ∈ Utf8.codePoints l, Text.isBlank r.code = true) (hm : m = kept ++ pad)
    (hpad : ∀ b ∈ pad, b = byte ' ' ∨ b = byte '\t') (hkept : ∀ b ∈ kept.getLast?, b ≠ byte ' ' ∧ b ≠ byte '\t') :
    Prefixed m l kept

lemma prefixed_prefixLine (m l : Bytes) : Prefixed m l (prefixLine m l) := by
  cases hl : isBlankText l with
  | false =>
    rw [prefixLine_text hl]
    exact .text (isBlankText_eq_false.mp hl)
  | true =>
    obtain ⟨pad, hm, hpad⟩ := Bytes.exists_trimRight isPadding m
    rw [prefixLine_blank hl]
    refine .blank (isBlankText_eq_true.mp hl) hm (fun b hb => by simpa [isPadding] using hpad b hb) fun b hb => ?_
    simpa [isPadding] using Bytes.getLast?_trimRight hb

def BeginsWhole (s : Bytes) : Prop := ∀ l ∈ split newline s, ∀ x ∈ l.head?, Utf8.isStart x = true

lemma BeginsWhole.carriesLine (h : BeginsWhole s) (ha : isBlankText a = false) : ∀ l ∈ split newline s, CarriesLine a l := by
  intro l hl
  refine .inr ?_
  cases l with
  | nil => rwa [List.append_nil]
  | cons x l => rw [isBlankText_append (h _ hl x rfl), ha, Bool.false_and]

/-- Prefixing keeps the lines of a text: each is written behind its prefix, and only white space is lost. Prefixes
with a character other than white space nest: prefixing twice is prefixing once. So do prefixes with stray bytes for
such a character, if no line begins with bytes that may complete them. -/
theorem prefixLines_keeps :
    (∀ s first rest : Bytes, newline ∉ first → newline ∉ rest →
      (split newline (prefixLines s first rest)).length = (split newline s).length ∧
        ∀ (i : Nat) (l : Bytes), (split newline s)[i]? = some l →
          ∃ w, (split newline (prefixLines s first rest))[i]? = some w ∧
            Prefixed (if i = 0 then first else rest) l w) ∧
      ∀ s a b c d : Bytes, newline ∉ a → newline ∉ b →
        HasCharacter a ∧ HasCharacter b ∨ BeginsWhole s ∧ isBlankText a = false ∧ isBlankText b = false →
          prefixLines (prefixLines s a b) c d = prefixLines s (c ++ a) (d ++ b) := by
  constructor
  · intro s first rest hf hr
    obtain ⟨l, ls, hs⟩ := List.exists_cons_of_ne_nil (Bytes.split_ne_nil s)
    rw [split_prefixLines hs hf hr, hs]
    refine ⟨by simp, fun i k hk => ?_⟩
    cases i with
    | zero =>
      obtain rfl : l = k := by simpa using hk
      exact ⟨_, rfl, prefixed_prefixLine first l⟩
    | succ i =>
      refine ⟨prefixLine rest k, ?_, prefixed_prefixLine rest k⟩
      rw [List.getElem?_cons_succ] at hk ⊢
      rw [List.getElem?_map, hk]
      rfl
  · intro s a b c d ha hb hprefixes
    refine prefixLines_prefixLines ha hb (fun l hl => ?_) c d
    rcases hprefixes with ⟨hca, hcb⟩ | ⟨hs, hta, htb⟩
    · exact ⟨.inr (hca.visible l), .inr (hcb.visible l)⟩
    · exact ⟨hs.carriesLine hta l hl, hs.carriesLine htb l hl⟩

/-- A quotation of two paragraphs in a footnote. -/
theorem prefixLines_keeps_footnote :
    (let s := utf8 "a\n \nb"
    (split newline (prefixLines s (utf8 "> ") (utf8 "> "))).length = 3 ∧
      prefixLines (prefixLines s (utf8 "> ") (utf8 "> ")) (utf8 "[^1]: ") (utf8 "    ") =
        utf8 "[^1]: > a\n    >\n    > b") := by
  have hone := prefixLines_keeps.1 (utf8 "a\n \nb") (utf8 "> ") (utf8 "> ") (by decide) (by decide)
  have htwo := prefixLines_keeps.2 (utf8 "a\n \nb") (utf8 "> ") (utf8 "> ") (utf8 "[^1]: ") (utf8 "    ") (by decide)
    (by decide) (.inl ⟨by decide, by decide⟩)
  exact ⟨hone.1, htwo.trans (by decide)⟩

end MarkdownTidy.Writer
