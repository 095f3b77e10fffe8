import MarkdownTidy.Proofs.Html.References
import MarkdownTidy.Proofs.Shortcode.ValueEscaping
import MarkdownTidy.Proofs.Text.Marks

/-! Marks of punctuation that are spelled out, as references or plainly. Both spellings say the same once references are
resolved: a reference that is not finished ends at the ampersand of the next one as it does at a quote. -/

namespace MarkdownTidy.Html

/-! ### References in text -/

section Separator

variable {s : UInt8} (hs : isReferenceByte s = false)
include hs

lemma head?_drop_append {n : Nat} {x : Bytes} (h : n ≤ x.length) (y : Bytes) :
    (((x ++ s :: y).drop n).head? == some (byte ';')) = ((x.drop n).head? == some (byte ';')) := by
  have h59 : s ≠ 59 := ne_of_not_referenceByte hs rfl
  rw [List.drop_append_of_le_length h]
  cases x.drop n with
  | nil => simpa [byte] using h59
  | cons b t => rfl

lemma numericDigits_append (hex : Bool) (v : UInt32) (count : Nat) (x y : Bytes) :
    numericDigits hex v count (x ++ s :: y) = numericDigits hex v count x := by
  have hhex : Bytes.isHexDigit s = false := eq_false_of_imp (fun _ => isReferenceByte_of_isHexDigit) hs
  have hdigit : Bytes.isDigit s = false := eq_false_of_imp (fun _ => isReferenceByte_of_isDigit) hs
  induction x generalizing v count with
  | nil => simp [numericDigits, hhex, hdigit]
  | cons b x ih => simp only [List.cons_append, numericDigits, ih]

end Separator

lemma numericDigits_le (hex : Bool) (v : UInt32) (count : Nat) (x : Bytes) :
    (numericDigits hex v count x).2 ≤ count + x.length := by
  induction x generalizing v count with
  | nil => exact Nat.le_refl count
  | cons b x ih =>
    rw [numericDigits, List.length_cons]
    split
    · exact (ih _ _).trans (by omega)
    · split
      · exact (ih _ _).trans (by omega)
      · exact Nat.le_add_right count _

def numericBody (hex : Bool) (digits : Bytes) : UInt32 × Nat :=
  let (x, count) := numericDigits hex 0 0 digits
  (x, count + if (digits.drop count).head? == some (byte ';') then 1 else 0)

def isHex (rest : Bytes) : Bool := rest.head?.any fun c => c == byte 'x' || c == byte 'X'

def numeric (rest : Bytes) : UInt32 × Nat :=
  if isHex rest then ((numericBody true (rest.drop 1)).1, (numericBody true (rest.drop 1)).2 + 1)
  else numericBody false rest

lemma numericBody_le (hex : Bool) (digits : Bytes) : (numericBody hex digits).2 ≤ digits.length := by
  have hle := numericDigits_le hex 0 0 digits
  rw [numericBody]
  dsimp only
  split
  · rename_i hsemi
    obtain ⟨t, ht⟩ := List.head?_eq_some_iff.mp (beq_iff_eq.mp hsemi)
    have hlen := congrArg List.length ht
    rw [List.length_drop, List.length_cons] at hlen
    omega
  · omega

lemma numeric_le (rest : Bytes) : (numeric rest).2 ≤ rest.length := by
  rw [numeric]
  split
  · rename_i hhex
    have hle := numericBody_le true (rest.drop 1)
    cases rest with
    | nil => cases hhex
    | cons c rest => exact Nat.succ_le_succ hle
  · exact numericBody_le false rest

lemma numericBody_append {s : UInt8} (hs : isReferenceByte s = false) (hex : Bool) (x y : Bytes) :
    numericBody hex (x ++ s :: y) = numericBody hex x := by
  have hle := numericDigits_le hex 0 0 x
  rw [Nat.zero_add] at hle
  simp only [numericBody, numericDigits_append hs, head?_drop_append hs hle]

lemma numeric_append {s : UInt8} (hs : isReferenceByte s = false) (rest y : Bytes) :
    numeric (rest ++ s :: y) = numeric rest := by
  have hhex : isHex (rest ++ s :: y) = isHex rest := by
    cases rest with
    | nil =>
      have h1 : s ≠ 120 := ne_of_not_referenceByte hs rfl
      have h2 : s ≠ 88 := ne_of_not_referenceByte hs rfl
      simp [isHex, byte, h1, h2]
    | cons c rest => rfl
  -- behind an x the digits begin one byte later in both texts
  rw [numeric, numeric, hhex, numericBody_append hs]
  split
  · rename_i h
    cases rest with
    | nil => cases h
    | cons c rest => rw [List.cons_append, List.drop_succ_cons, List.drop_zero, numericBody_append hs]; rfl
  · rfl

lemma resolve_hash (inValue : Bool) (rest : Bytes) :
    resolve inValue (35 :: rest) =
      if (numeric rest).2 ≤ 1 then ([38], 1)
      else (Utf8.encode (numericCode (numeric rest).1), (numeric rest).2 + 2) := by
  rw [resolve, if_pos (by rfl)]
  split
  · rename_i hshort
    have hle := numeric_le rest
    rw [List.length_cons] at hshort
    rw [if_pos (by omega)]
    rfl
  · have hsize : ∀ code size n : Nat, size = n + 2 → (if size ≤ 3 then ([38], 1) else (Utf8.encode code, size)) =
        if n ≤ 1 then ([38], 1) else (Utf8.encode code, n + 2) := by
      intro code size n h
      subst h
      by_cases hn : n ≤ 1 <;> simp [hn]
    rw [numeric]
    by_cases hhex : isHex rest = true
    · rw [if_pos hhex]
      rw [isHex] at hhex
      simp only [hhex, if_true]
      refine hsize _ _ _ ?_
      simp only [numericBody]
      omega
    · rw [if_neg hhex]
      rw [isHex] at hhex
      simp only [Bool.not_eq_true _ ▸ hhex, Bool.false_eq_true, if_false]
      refine hsize _ _ _ ?_
      simp only [numericBody]
      omega

def nameSize (s : Bytes) : Nat :=
  (s.takeWhile Bytes.isAlphanumeric).length +
    if (s.drop (s.takeWhile Bytes.isAlphanumeric).length).head? == some (byte ';') then 1 else 0

lemma nameSize_le (s : Bytes) : nameSize s ≤ s.length := by
  have hle := (List.takeWhile_prefix Bytes.isAlphanumeric (l := s)).length_le
  rw [nameSize]
  split
  · rename_i hsemi
    exact (taken_run (fun _ => isReferenceByte_of_alphanumeric)
      (by rwa [Bytes.drop_length_takeWhile, beq_iff_eq] at hsemi)).1
  · exact hle

lemma resolve_append {s : UInt8} (hs : isReferenceByte s = false) (x y : Bytes) :
    resolve false (x ++ s :: y) = resolve false x := by
  have h35 : s ≠ 35 := ne_of_not_referenceByte hs rfl
  have h59 : s ≠ 59 := ne_of_not_referenceByte hs rfl
  have halpha := not_alphanumeric hs
  cases x with
  | nil => simp [resolve, byte, h35, h59, halpha]
  | cons b x =>
    by_cases hb : b = 35
    · subst hb
      rw [List.cons_append, resolve_hash, resolve_hash, numeric_append hs]
    · have htake := takeWhile_append_cons halpha (b :: x) y
      have hclosed := head?_drop_append hs (List.takeWhile_prefix Bytes.isAlphanumeric (l := b :: x)).length_le y
      have hsize : ∀ n, n ≤ (b :: x).length → (b :: x ++ s :: y).take n = (b :: x).take n := fun n hn =>
        List.take_append_of_le_length hn
      have hle := nameSize_le (b :: x)
      rw [nameSize] at hle
      have hb' : (b == byte '#') = false := by simpa [byte] using hb
      rw [List.cons_append] at htake hclosed hsize ⊢
      simp only [resolve, hb', Bool.false_eq_true, if_false, htake, hclosed, hsize _ hle, Bool.false_and,
        List.take_zero]

lemma longestBare?_le {name : Bytes} {n k : Nat} {codes : List Nat} (h : longestBare? name n = some (k, codes)) :
    k ≤ n := by
  fun_induction longestBare? name n with
  | case1 | case2 => cases h
  | case3 n codes' hcodes =>
    obtain ⟨rfl, -⟩ := Prod.mk.inj (Option.some.inj h)
    exact Nat.le_refl _
  | case4 n hnone ih => exact Nat.le_succ_of_le (ih h)

lemma resolve_le (x : Bytes) : (resolve false x).2 ≤ x.length + 1 := by
  cases x with
  | nil => exact Nat.le_refl 1
  | cons b x =>
    by_cases hb : b = 35
    · subst hb
      have hle := numeric_le x
      rw [resolve_hash]
      split
      · simp
      · simp only [List.length_cons]
        omega
    · have hle := nameSize_le (b :: x)
      have hb' : (b == byte '#') = false := by simpa [byte] using hb
      simp only [resolve, hb', Bool.false_eq_true, if_false, Bool.false_and]
      rw [← nameSize]
      split
      · simp
      · split
        · exact Nat.succ_le_succ hle
        · split
          · rename_i hbare
            have hshort := longestBare?_le hbare
            dsimp only
            omega
          · exact Nat.succ_le_succ hle

lemma unescapeUpTo_fuel {inValue : Bool} {fuel fuel' : Nat} {x : Bytes} (h : x.length ≤ fuel) (h' : x.length ≤ fuel') :
    unescapeUpTo inValue fuel x = unescapeUpTo inValue fuel' x := by
  -- every step takes a byte, so neither amount runs out
  induction fuel generalizing fuel' x with
  | zero =>
    obtain rfl : x = [] := List.length_eq_zero_iff.mp (by omega)
    cases fuel' <;> rfl
  | succ fuel ih =>
    cases x with
    | nil => cases fuel' <;> rfl
    | cons b x =>
      cases fuel' with
      | zero => simp at h'
      | succ fuel' =>
        rw [List.length_cons, Nat.add_le_add_iff_right] at h h'
        have hdrop : ∀ n, unescapeUpTo inValue fuel (x.drop n) = unescapeUpTo inValue fuel' (x.drop n) := by
          intro n
          have hn : (x.drop n).length ≤ x.length := by simp
          exact ih (by omega) (by omega)
        simp only [unescapeUpTo, ih h h', hdrop]

lemma unescape_cons {b : UInt8} (hb : b ≠ 38) (inValue : Bool) (s : Bytes) :
    unescape inValue (b :: s) = b :: unescape inValue s := by
  simp [unescape, unescapeUpTo, byte, hb]

lemma unescape_amp (inValue : Bool) (s : Bytes) :
    unescape inValue (38 :: s) = (resolve inValue s).1 ++ unescape inValue (s.drop ((resolve inValue s).2 - 1)) := by
  have hfuel : ∀ n, unescapeUpTo inValue s.length (s.drop n) = unescape inValue (s.drop n) := fun n =>
    unescapeUpTo_fuel (by simp) (Nat.le_refl _)
  simp [unescape, unescapeUpTo, byte, hfuel]

lemma unescape_append {s : UInt8} (hs : isReferenceByte s = false) (x y : Bytes) :
    unescape false (x ++ s :: y) = unescape false x ++ unescape false (s :: y) := by
  induction hn : x.length using Nat.strongRecOn generalizing x with
  | _ n ih =>
    subst hn
    cases x with
    | nil => rfl
    | cons b x =>
      rw [List.cons_append]
      by_cases hb : b = 38
      · subst hb
        have hle := resolve_le x
        have hdrop : (x ++ s :: y).drop ((resolve false x).2 - 1) = x.drop ((resolve false x).2 - 1) ++ s :: y :=
          List.drop_append_of_le_length (by omega)
        rw [unescape_amp, unescape_amp, resolve_append hs, hdrop,
          ih _ (by rw [List.length_drop, List.length_cons]; omega) _ rfl, List.append_assoc]
      · rw [unescape_cons hb, unescape_cons hb, ih x.length (by simp) x rfl, List.cons_append]

lemma unescape_closed {name : Bytes} {codes : List Nat} (hne : name ≠ [])
    (hname : name.all Bytes.isAlphanumeric = true) (hcodes : codes? name = some codes) (inValue : Bool)
    (s : Bytes) : unescape inValue (38 :: (name ++ 59 :: s)) = codes.flatMap Utf8.encode ++ unescape inValue s := by
  rw [unescape_amp, resolve_closed hne hname hcodes]
  simp

end MarkdownTidy.Html

namespace MarkdownTidy.Punctuation

variable {spelling : Mark → Bytes}

def markCodes : List Nat := [0x2019, 0x2032, 0x201C, 0x201D, 0x2033, 0x2013, 0x2014]

def IsAscii (spelling : Mark → Bytes) : Prop := ∀ m, spelling m ≠ [] ∧ ∀ b ∈ spelling m, b < 0x80

lemma isAscii_plain : IsAscii plain := by
  intro m
  have h : plain m ≠ [] ∧ (plain m).all (· < 0x80) = true := by cases m <;> decide
  simpa using h

lemma isAscii_entities : IsAscii entities := fun m =>
  ⟨entities_ne_nil m, fun _ hb => lt_of_isSpelling (isSpelling_of_mem_entities hb)⟩

lemma exists_of_spell_eq_cons (hascii : IsAscii spelling) {b : UInt8} (hb : ¬ b < 0x80) {s t : Bytes}
    (h : spell spelling s = b :: t) : ∃ s', s = b :: s' ∧ t = spell spelling s' := by
  cases s using marks_induction with
  | nil => cases h
  | byte c s hm =>
    rw [spell_cons hm, List.cons.injEq] at h
    exact ⟨s, by rw [h.1], h.2.symm⟩
  | mark m c s hm =>
    obtain ⟨hne, hlt⟩ := hascii m
    obtain ⟨d, u, hd⟩ := List.exists_cons_of_ne_nil hne
    rw [spell_mark hm, hd, List.cons_append, List.cons.injEq] at h
    exact absurd (h.1 ▸ hlt d (hd ▸ List.mem_cons_self)) hb

lemma mark?_spell_cons (hascii : IsAscii spelling) {b : UInt8} {s : Bytes} (h : mark? (b :: s) = none) :
    mark? (b :: spell spelling s) = none := by
  by_contra hne
  obtain ⟨m, hm⟩ := Option.ne_none_iff_exists'.mp hne
  obtain ⟨c, t, he, -⟩ := exists_of_mark? hm
  obtain ⟨rfl, hs⟩ := List.cons.inj he
  -- the two bytes behind the first are not ASCII, so they stood there before
  obtain ⟨s₁, rfl, hs₁⟩ := exists_of_spell_eq_cons hascii (by decide) hs
  obtain ⟨s₂, rfl, -⟩ := exists_of_spell_eq_cons hascii (not_lt_of_mark? (he ▸ hm)) hs₁.symm
  rw [he, mark?_cons_cons_cons, ← mark?_cons_cons_cons _ _ c s₂, h] at hm
  cases hm

lemma hasMark_ascii_append {s : Bytes} (h : ∀ b ∈ s, b < 0x80) (t : Bytes) : hasMark (s ++ t) = hasMark t := by
  induction s with
  | nil => rfl
  | cons b s ih =>
    rw [List.forall_mem_cons] at h
    rw [List.cons_append, hasMark_cons, mark?_eq_none_of_lt h.1, ih h.2]
    rfl

lemma hasMark_spell (hascii : IsAscii spelling) (s : Bytes) : hasMark (spell spelling s) = false := by
  induction s using marks_induction with
  | nil => rfl
  | byte b s hm ih =>
    rw [spell_cons hm, hasMark_cons, mark?_spell_cons hascii hm, ih]
    rfl
  | mark m c s hm ih => rw [spell_mark hm, hasMark_ascii_append (hascii m).2, ih]

lemma hasMark_append (s : Bytes) {t : Bytes} (h : hasMark t = true) : hasMark (s ++ t) = true := by
  induction s with
  | nil => exact h
  | cons b s ih => rw [List.cons_append, hasMark_cons, ih, Bool.or_true]

lemma hasMark_of_infix {code : Nat} (hcode : code ∈ markCodes) {s : Bytes} (h : Utf8.encode code <:+: s) :
    hasMark s = true := by
  have hall : ∀ code ∈ markCodes, ∃ c, Utf8.encode code = [0xE2, 0x80, c] ∧ (mark? [0xE2, 0x80, c]).isSome = true := by
    simp only [markCodes, List.forall_mem_cons]
    exact ⟨⟨_, rfl, rfl⟩, ⟨_, rfl, rfl⟩, ⟨_, rfl, rfl⟩, ⟨_, rfl, rfl⟩, ⟨_, rfl, rfl⟩, ⟨_, rfl, rfl⟩, ⟨_, rfl, rfl⟩,
      by simp⟩
  obtain ⟨c, he, hc⟩ := hall code hcode
  obtain ⟨x, y, rfl⟩ := h
  rw [he, List.append_assoc]
  refine hasMark_append x ?_
  rw [List.cons_append, List.cons_append, List.cons_append, hasMark_cons, mark?_cons_cons_cons, hc, Bool.true_or]

lemma unescape_spell (x s : Bytes) :
    Html.unescape false (x ++ spell entities s) = Html.unescape false (x ++ spell plain s) := by
  -- a reference in place of a byte that no reference reaches past
  have hmark : ∀ (name : Bytes) (b : UInt8) {x t u : Bytes}, name ≠ [] → name.all Bytes.isAlphanumeric = true →
      Html.codes? name = some [b.toNat] → Utf8.encode b.toNat = [b] → Html.isReferenceByte b = false → b ≠ 38 →
      Html.unescape false t = Html.unescape false u →
      Html.unescape false (x ++ 38 :: (name ++ 59 :: t)) = Html.unescape false (x ++ b :: u) := by
    intro name b x t u hne hname hcodes hb href hamp htu
    rw [Html.unescape_append (by decide), Html.unescape_closed hne hname hcodes, Html.unescape_append href,
      Html.unescape_cons hamp, htu, List.flatMap_singleton, hb]
    rfl
  induction s using marks_induction generalizing x with
  | nil => rfl
  | byte b s hm ih =>
    rw [spell_cons hm, spell_cons hm, List.append_cons, List.append_cons x b (spell plain s)]
    exact ih _
  | mark m c s hm ih =>
    rw [spell_mark hm, spell_mark hm]
    cases m with
    | apostrophe =>
      exact hmark (utf8 "apos") 39 (by decide) (by decide) Html.codes?_written.2.1 rfl rfl (by decide) (ih [])
    | quote =>
      exact hmark (utf8 "quot") 34 (by decide) (by decide) Html.codes?_written.2.2.2.2.2 rfl rfl (by decide) (ih [])
    | enDash =>
      rw [← List.append_assoc, ← List.append_assoc]
      exact ih _
    | emDash =>
      rw [← List.append_assoc, ← List.append_assoc]
      exact ih _

/-- Neither way of spelling marks leaves one in a text, and what is written as a reference in one stands for what is
written in the other, whatever ampersands and unfinished references the text has around its marks. -/
theorem unescape_escape_clean (s : Bytes) :
    (∀ code ∈ markCodes, ¬ Utf8.encode code <:+: clean s ∧ ¬ Utf8.encode code <:+: escape s) ∧
      Html.unescape false (escape s) = Html.unescape false (clean s) := by
  have habsent : ∀ {spelling}, IsAscii spelling → ∀ code ∈ markCodes, ¬ Utf8.encode code <:+: replace spelling s := by
    intro spelling hascii code hcode h
    have hmark := hasMark_of_infix hcode h
    rw [show replace spelling s = spell spelling (Text.compose s) from rfl, hasMark_spell hascii] at hmark
    cases hmark
  exact ⟨fun code hcode => ⟨habsent isAscii_plain code hcode, habsent isAscii_entities code hcode⟩,
    unescape_spell [] (Text.compose s)⟩

end MarkdownTidy.Punctuation
