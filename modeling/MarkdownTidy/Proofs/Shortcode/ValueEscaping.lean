import MarkdownTidy.Html.Escape
import MarkdownTidy.Proofs.Bytes.Search
import MarkdownTidy.Shortcode.Printer

/-! Escaped attribute values. Resolving references gives every value back, whatever references it
seems to hold itself; line ends are the only thing a quoted value does not keep. -/

namespace MarkdownTidy.Html

lemma codes?_written :
    codes? [97, 109, 112] = some [38] ∧ codes? [97, 112, 111, 115] = some [39] ∧
      codes? [103, 116] = some [62] ∧ codes? [108, 116] = some [60] ∧
      codes? [110, 98, 115, 112] = some [160] ∧ codes? [113, 117, 111, 116] = some [34] := by
  decide +kernel

lemma resolve_closed {name : Bytes} {codes : List Nat} (hne : name ≠ [])
    (hname : name.all Bytes.isAlphanumeric = true) (hcodes : codes? name = some codes) (inValue : Bool)
    (s : Bytes) : resolve inValue (name ++ 59 :: s) = (codes.flatMap Utf8.encode, name.length + 2) := by
  have htake : (name ++ 59 :: s).takeWhile Bytes.isAlphanumeric = name := by
    rw [List.takeWhile_append_of_pos (List.all_eq_true.mp hname)]
    exact List.append_nil name
  cases name with
  | nil => contradiction
  | cons b name =>
    have hb : b ≠ 35 := by
      rintro rfl
      cases List.all_eq_true.mp hname 35 List.mem_cons_self
    rw [List.cons_append] at htake ⊢
    simp [resolve, hb, htake, hcodes, byte]

end MarkdownTidy.Html

namespace MarkdownTidy.Shortcode

lemma escapeValue_amp (s : Bytes) : escapeValue (38 :: s) = [38, 97, 109, 112, 59] ++ escapeValue s := by
  conv_lhs => unfold escapeValue
  rfl

lemma escapeValue_quote (s : Bytes) :
    escapeValue (34 :: s) = [38, 113, 117, 111, 116, 59] ++ escapeValue s := by
  conv_lhs => unfold escapeValue
  rfl

lemma escapeValue_noBreak (s : Bytes) :
    escapeValue (0xC2 :: 0xA0 :: s) = [38, 110, 98, 115, 112, 59] ++ escapeValue s := by
  conv_lhs => unfold escapeValue
  rfl

def isEscaped (b : UInt8) (rest : Bytes) : Bool :=
  b == 38 || b == 34 || (b == 0xC2 && rest.head? == some 0xA0)

lemma escapeValue_cons {b : UInt8} {s : Bytes} (h : isEscaped b s = false) :
    escapeValue (b :: s) = b :: escapeValue s := by
  simp only [isEscaped, Bool.or_eq_false_iff, beq_eq_false_iff_ne] at h
  conv_lhs => unfold escapeValue
  rw [if_neg (by simpa [byte] using h.1.1), if_neg (by simpa [byte] using h.1.2)]
  split
  · simp at h
  · simp_all

lemma escape_induction {motive : Bytes → Prop} (nil : motive [])
    (amp : ∀ s, motive s → motive (38 :: s)) (quote : ∀ s, motive s → motive (34 :: s))
    (noBreak : ∀ s, motive s → motive (0xC2 :: 0xA0 :: s))
    (plain : ∀ b s, isEscaped b s = false → motive s → motive (b :: s)) (s : Bytes) : motive s := by
  induction hn : s.length using Nat.strongRecOn generalizing s with
  | _ n ih =>
    cases s with
    | nil => exact nil
    | cons b s =>
      have hs : motive s := ih s.length (by simp [← hn]) s rfl
      cases h : isEscaped b s with
      | false => exact plain b s h hs
      | true =>
        simp only [isEscaped, Bool.or_eq_true, Bool.and_eq_true, beq_iff_eq,
          List.head?_eq_some_iff] at h
        rcases h with (rfl | rfl) | ⟨rfl, t, rfl⟩
        · exact amp s hs
        · exact quote s hs
        · exact noBreak t (ih t.length (by rw [← hn, List.length_cons, List.length_cons]; omega) t rfl)

lemma ne_of_isEscaped_eq_false {b : UInt8} {s : Bytes} (h : isEscaped b s = false) :
    b ≠ 38 ∧ b ≠ 34 := by
  simp only [isEscaped, Bool.or_eq_false_iff, beq_eq_false_iff_ne] at h
  exact h.1

lemma quote_notMem_escapeValue (s : Bytes) : 34 ∉ escapeValue s := by
  induction s using escape_induction with
  | nil => simp [escapeValue]
  | amp s ih => simp [escapeValue_amp, ih]
  | quote s ih => simp [escapeValue_quote, ih]
  | noBreak s ih => simp [escapeValue_noBreak, ih]
  | plain b s h ih =>
    simp [escapeValue_cons h, ih, (ne_of_isEscaped_eq_false h).2.symm]

lemma resolve_amp (s : Bytes) : Html.resolve true (97 :: 109 :: 112 :: 59 :: s) = ([38], 5) :=
  Html.resolve_closed (by decide) (by decide) Html.codes?_written.1 true s

lemma resolve_quote (s : Bytes) :
    Html.resolve true (113 :: 117 :: 111 :: 116 :: 59 :: s) = ([34], 6) :=
  Html.resolve_closed (by decide) (by decide) Html.codes?_written.2.2.2.2.2 true s

lemma resolve_noBreak (s : Bytes) :
    Html.resolve true (110 :: 98 :: 115 :: 112 :: 59 :: s) = ([0xC2, 0xA0], 6) :=
  Html.resolve_closed (by decide) (by decide) Html.codes?_written.2.2.2.2.1 true s

lemma unescapeUpTo_escapeValue {fuel : Nat} {s : Bytes} (h : (escapeValue s).length ≤ fuel) :
    Html.unescapeUpTo true fuel (escapeValue s) = s := by
  induction s using escape_induction generalizing fuel with
  | nil => cases fuel <;> rfl
  | amp s ih =>
    rw [escapeValue_amp] at h ⊢
    match fuel with
    | 0 => simp at h
    | fuel + 1 =>
      have hr := @ih fuel (by simp at h; omega)
      simp [Html.unescapeUpTo, byte, resolve_amp, hr]
  | quote s ih =>
    rw [escapeValue_quote] at h ⊢
    match fuel with
    | 0 => simp at h
    | fuel + 1 =>
      have hr := @ih fuel (by simp at h; omega)
      simp [Html.unescapeUpTo, byte, resolve_quote, hr]
  | noBreak s ih =>
    rw [escapeValue_noBreak] at h ⊢
    match fuel with
    | 0 => simp at h
    | fuel + 1 =>
      have hr := @ih fuel (by simp at h; omega)
      simp [Html.unescapeUpTo, byte, resolve_noBreak, hr]
  | plain b s hb ih =>
    have ha := (ne_of_isEscaped_eq_false hb).1
    rw [escapeValue_cons hb] at h ⊢
    match fuel with
    | 0 => simp at h
    | fuel + 1 =>
      have hr := @ih fuel (by simpa using h)
      simp [Html.unescapeUpTo, byte, ha, hr]

lemma unescape_escapeValue (s : Bytes) : Html.unescape true (escapeValue s) = s :=
  unescapeUpTo_escapeValue (Nat.le_refl _)

/-! ### Line ends -/

lemma head?_escapeValue_eq_newline (s : Bytes) :
    ((escapeValue s).head? == some Bytes.newline) = (s.head? == some Bytes.newline) := by
  induction s using escape_induction with
  | nil => rfl
  | amp s => rw [escapeValue_amp]; rfl
  | quote s => rw [escapeValue_quote]; rfl
  | noBreak s => rw [escapeValue_noBreak]; rfl
  | plain b s h => rw [escapeValue_cons h]; rfl

lemma convertNewlines_append {s : Bytes} (h : 13 ∉ s) (t : Bytes) :
    Html.convertNewlines (s ++ t) = s ++ Html.convertNewlines t := by
  induction s with
  | nil => rfl
  | cons b s ih =>
    rw [List.mem_cons, not_or] at h
    have hb : ¬ b = 13 := fun hb => h.1 hb.symm
    simp [Html.convertNewlines, byte, hb, ih h.2]

lemma head?_of_head?_convertNewlines {c : UInt8} (hc : c ≠ Bytes.newline) {s : Bytes}
    (h : (Html.convertNewlines s).head? = some c) : s.head? = some c := by
  cases s with
  | nil => simp [Html.convertNewlines] at h
  | cons b s =>
    rw [Html.convertNewlines] at h
    split at h
    · split at h
      · rename_i hn
        obtain ⟨t, rfl⟩ := List.head?_eq_some_iff.mp (beq_iff_eq.mp hn)
        exact absurd (by simpa [Html.convertNewlines, byte, Bytes.newline] using h.symm) hc
      · exact absurd (by simpa using h.symm) hc
    · simpa using h

lemma isEscaped_convertNewlines {b : UInt8} {s : Bytes} (h : isEscaped b s = false) :
    isEscaped b (Html.convertNewlines s) = false := by
  simp only [isEscaped, Bool.or_eq_false_iff, Bool.and_eq_false_iff, beq_eq_false_iff_ne] at h ⊢
  exact ⟨h.1, h.2.imp_right fun hs ht => hs (head?_of_head?_convertNewlines (by decide) ht)⟩

lemma convertNewlines_escapeValue (s : Bytes) :
    Html.convertNewlines (escapeValue s) = escapeValue (Html.convertNewlines s) := by
  induction s using escape_induction with
  | nil => rfl
  | amp s ih =>
    have hs : Html.convertNewlines (38 :: s) = 38 :: Html.convertNewlines s :=
      convertNewlines_append (s := [38]) (by decide) s
    rw [escapeValue_amp, hs, escapeValue_amp, convertNewlines_append (by decide), ih]
  | quote s ih =>
    have hs : Html.convertNewlines (34 :: s) = 34 :: Html.convertNewlines s :=
      convertNewlines_append (s := [34]) (by decide) s
    rw [escapeValue_quote, hs, escapeValue_quote, convertNewlines_append (by decide), ih]
  | noBreak s ih =>
    have hs : Html.convertNewlines (0xC2 :: 0xA0 :: s) = 0xC2 :: 0xA0 :: Html.convertNewlines s :=
      convertNewlines_append (s := [0xC2, 0xA0]) (by decide) s
    rw [escapeValue_noBreak, hs, escapeValue_noBreak, convertNewlines_append (by decide), ih]
  | plain b s h ih =>
    rw [escapeValue_cons h, Html.convertNewlines, head?_escapeValue_eq_newline, ih]
    conv_rhs => rw [Html.convertNewlines]
    by_cases hb : b = 13
    · subst hb
      by_cases hn : (s.head? == some Bytes.newline) = true
      · simp [byte, hn]
      · simp only [byte, hn]
        exact (escapeValue_cons rfl).symm
    · have hc : (b == byte '\r') = false := by simpa [byte] using hb
      rw [hc]
      exact (escapeValue_cons (isEscaped_convertNewlines h)).symm

lemma notMem_convertNewlines (s : Bytes) : 13 ∉ Html.convertNewlines s := by
  induction s with
  | nil => simp [Html.convertNewlines]
  | cons b s ih =>
    rw [Html.convertNewlines]
    split
    · split
      · exact ih
      · simp [Bytes.newline, ih]
    · rename_i hb
      have hb : ¬ 13 = b := by rintro rfl; simp [byte] at hb
      simp [hb, ih]

lemma convertNewlines_eq_self_iff {s : Bytes} : Html.convertNewlines s = s ↔ 13 ∉ s := by
  constructor
  · intro h
    rw [← h]
    exact notMem_convertNewlines s
  · intro h
    simpa [Html.convertNewlines] using convertNewlines_append h []

/-! ### Occurrences -/

def referenceBytes : Bytes := utf8 "\"&amp;&quot;&nbsp;" ++ [0xC2, 0xA0]

variable {needle : Bytes}

lemma prefix_escapeValue_iff (h : ∀ c ∈ referenceBytes, c ∉ needle) (s : Bytes) :
    needle <+: escapeValue s ↔ needle <+: s := by
  induction needle generalizing s with
  | nil => simp
  | cons c needle ih =>
    have hi := ih fun d hd hm => h d hd (List.mem_cons_of_mem _ hm)
    have hc : ∀ d ∈ referenceBytes, c ≠ d := fun d hd he => h d hd (he ▸ List.mem_cons_self)
    have ha : c ≠ 38 := hc 38 (by decide)
    have hq : c ≠ 34 := hc 34 (by decide)
    have hb : c ≠ 0xC2 := hc 0xC2 (by decide)
    cases s using escape_induction with
    | nil => rfl
    | amp s => simp [escapeValue_amp, List.cons_prefix_cons, ha]
    | quote s => simp [escapeValue_quote, List.cons_prefix_cons, ha, hq]
    | noBreak s => simp [escapeValue_noBreak, List.cons_prefix_cons, ha, hb]
    | plain b s h => simp [escapeValue_cons h, List.cons_prefix_cons, hi]

lemma infix_escapeValue_iff (hn : needle ≠ []) (h : ∀ c ∈ referenceBytes, c ∉ needle) (s : Bytes) :
    needle <:+: escapeValue s ↔ needle <:+: s := by
  have hw : ∀ {w : Bytes}, w.all (referenceBytes.contains ·) = true →
      ∀ t, needle <:+: w ++ t ↔ needle <:+: t := fun hw t =>
    Bytes.infix_append_iff_of_disjoint
      (fun c hc => h c (List.contains_iff_mem.mp (List.all_eq_true.mp hw c hc))) hn
  induction s using escape_induction with
  | nil => rfl
  | amp s ih =>
    rw [escapeValue_amp, hw rfl]
    exact ih.trans (hw (w := [38]) rfl s).symm
  | quote s ih =>
    rw [escapeValue_quote, hw rfl]
    exact ih.trans (hw (w := [34]) rfl s).symm
  | noBreak s ih =>
    rw [escapeValue_noBreak, hw rfl]
    exact ih.trans (hw (w := [0xC2, 0xA0]) rfl s).symm
  | plain b s hb ih =>
    rw [escapeValue_cons hb, List.infix_cons_iff, List.infix_cons_iff, ← escapeValue_cons hb,
      prefix_escapeValue_iff h]
    exact or_congr_right ih

end MarkdownTidy.Shortcode
