import Mathlib.Data.List.Forall2
import MarkdownTidy.Proofs.Bytes.Cutting
import MarkdownTidy.Proofs.Bytes.Search
import MarkdownTidy.Proofs.Outcomes
import MarkdownTidy.Proofs.Text.LetterCase
import MarkdownTidy.Url.Escape

/-! Percent escapes. A text can be spelled in many ways; one of them is what escaping gives. A slash cuts a spelling
where it cuts the text, unless it is an escaped one. -/

namespace MarkdownTidy.UrlPart

/-- A text and a spelling of it, in which any byte may be an escape. -/
inductive Spells : Bytes → Bytes → Prop
  | nil : Spells [] []
  | escape {a b : UInt8} {s t : Bytes} (ha : Bytes.isHexDigit a = true) (hb : Bytes.isHexDigit b = true)
      (h : Spells s t) :
      Spells ((Bytes.hexValue a * 16 + Bytes.hexValue b).toUInt8 :: s) (37 :: a :: b :: t)
  | byte {c : UInt8} {s t : Bytes} (hc : c ≠ 37) (h : Spells s t) : Spells (c :: s) (c :: t)

variable {part : UrlPart} {c : UInt8} {s t u v x y : Bytes}

lemma allowsEscape_of_not_inHost (hp : part.inHost = false) (a b : UInt8) : part.allowsEscape a b = true := by
  cases part with
  | host | zone => cases hp
  | _ => rfl

lemma unescape?_eq_ok_iff (hp : part.inHost = false) : part.unescape? t = .ok s ↔ Spells s t := by
  constructor
  · intro h
    fun_induction part.unescape? t generalizing s with
    | case1 => cases h; exact .nil
    | case2 | case4 | case5 => cases h
    | case3 c hc a b rest hok ih =>
      rw [Bool.or_eq_true, not_or, Bool.not_eq_true', Bool.not_eq_false, Bool.and_eq_true] at hok
      obtain rfl : c = 37 := beq_iff_eq.mp hc
      obtain ⟨s', hs, rfl⟩ := exists_of_map_eq_ok h
      exact .escape hok.1.1 hok.1.2 (ih hs)
    | case6 c rest hc hhost ih =>
      obtain ⟨s', hs, rfl⟩ := exists_of_map_eq_ok h
      exact .byte (by simpa [byte] using hc) (ih hs)
  · intro h
    induction h with
    | nil => rfl
    | escape ha hb _ ih =>
      rw [unescape?]
      simp [ha, hb, allowsEscape_of_not_inHost hp, ih, byte]
      rfl
    | byte hc _ ih =>
      rw [unescape?.eq_def]
      simp [hc, hp, ih, byte]
      rfl

lemma Spells.append (hs : Spells s t) (hu : Spells u v) : Spells (s ++ u) (t ++ v) := by
  induction hs with
  | nil => exact hu
  | escape ha hb _ ih => exact .escape ha hb ih
  | byte hc _ ih => exact .byte hc ih

lemma Spells.unique (hs : Spells s t) (hu : Spells u t) : s = u := by
  have hp : path.inHost = false := rfl
  exact Except.ok.inj (((unescape?_eq_ok_iff hp).mpr hs).symm.trans ((unescape?_eq_ok_iff hp).mpr hu))

lemma Spells.exists_of_cons (hc : c ≠ 37) (h : Spells s (c :: t)) : ∃ u, s = c :: u ∧ Spells u t := by
  cases h with
  | escape => exact absurd rfl hc
  | byte _ h => exact ⟨_, rfl, h⟩

lemma Spells.exists_of_append_cons (hc : c ≠ 37) (hx : Bytes.isHexDigit c = false) (h : Spells s (x ++ c :: y)) :
    ∃ a b, s = a ++ c :: b ∧ Spells a x ∧ Spells b y := by
  -- an escape takes three bytes, and none of them is the one to cut at
  induction hn : x.length using Nat.strongRecOn generalizing x s with
  | _ n ih =>
    subst hn
    match x, h with
    | [], h =>
      cases h with
      | escape => exact absurd rfl hc
      | byte _ h => exact ⟨[], _, rfl, .nil, h⟩
    | [d], h =>
      cases h with
      | escape ha => exact absurd (hx.symm.trans ha) Bool.false_ne_true
      | byte hd h =>
        obtain ⟨a, b, rfl, ha, hb⟩ := ih 0 (by simp) (x := []) h rfl
        exact ⟨d :: a, b, rfl, .byte hd ha, hb⟩
    | [d, e], h =>
      cases h with
      | escape _ hb => exact absurd (hx.symm.trans hb) Bool.false_ne_true
      | byte hd h =>
        obtain ⟨a, b, rfl, ha, hb⟩ := ih 1 (by simp) (x := [e]) h rfl
        exact ⟨d :: a, b, rfl, .byte hd ha, hb⟩
    | d :: e :: f :: x, h =>
      cases h with
      | escape he hf h =>
        obtain ⟨a, b, rfl, ha, hb⟩ := ih x.length (by simp only [List.length_cons]; omega) h rfl
        exact ⟨_ :: a, b, rfl, .escape he hf ha, hb⟩
      | byte hd h =>
        obtain ⟨a, b, rfl, ha, hb⟩ := ih (x.length + 2) (by simp) (x := e :: f :: x) h rfl
        exact ⟨d :: a, b, rfl, .byte hd ha, hb⟩

/-! ### Escaping -/

lemma hexDigitUpper_spec : ∀ n < 16, Bytes.isHexDigit (Bytes.hexDigitUpper n) = true ∧
    Bytes.hexValue (Bytes.hexDigitUpper n) = n := by
  decide

lemma spells_escapeByte (c : UInt8) : Spells [c] (escapeByte c) := by
  have hc : c.toNat < 256 := c.toNat_lt
  have hhigh := hexDigitUpper_spec (c.toNat / 16) (by omega)
  have hlow := hexDigitUpper_spec (c.toNat % 16) (by omega)
  have h := Spells.escape hhigh.1 hlow.1 .nil
  rwa [hhigh.2, hlow.2, Nat.div_add_mod' c.toNat 16, Nat.toUInt8, UInt8.ofNat_toNat] at h

def unescaped : Bytes := utf8 "-_.~$&+,/:;=?@!()*"

lemma escapes_cases (hp : part.inHost = false) (h : part.escapes c = false) :
    Bytes.isAlphanumeric c = true ∨ c ∈ unescaped := by
  rw [or_iff_not_imp_left]
  intro halpha
  unfold escapes at h
  rw [if_neg halpha, hp, Bool.false_and, if_neg Bool.false_ne_true] at h
  split at h
  · rename_i hmem
    exact List.subset_def.mp (by decide) (List.contains_iff_mem.mp hmem)
  · split at h
    · rename_i hmem
      exact List.subset_def.mp (by decide) (List.contains_iff_mem.mp hmem)
    · rw [Bool.not_eq_false', Bool.and_eq_true] at h
      exact List.subset_def.mp (by decide) (List.contains_iff_mem.mp h.2)

lemma spells_escape (hp : part.inHost = false) (hq : part ≠ query) (s : Bytes) : Spells s (part.escape s) := by
  induction s with
  | nil => exact .nil
  | cons c s ih =>
    rw [escape, List.flatMap_cons]
    refine Spells.append (s := [c]) ?_ ih
    rw [if_neg (by simp [hq])]
    split
    · exact spells_escapeByte c
    · rename_i hc
      refine .byte ?_ .nil
      rintro rfl
      exact absurd (escapes_cases hp (Bool.eq_false_iff.mpr hc)) (by decide)

lemma mem_escape (hq : part ≠ query) (h : c ∈ part.escape s) :
    c = 37 ∨ Bytes.isHexDigit c = true ∨ c ∈ s ∧ part.escapes c = false := by
  rw [escape, List.mem_flatMap] at h
  obtain ⟨b, hb, h⟩ := h
  rw [if_neg (by simp [hq])] at h
  split at h
  · have hlt : b.toNat < 256 := b.toNat_lt
    simp only [escapeByte, List.mem_cons, List.not_mem_nil, or_false] at h
    rcases h with rfl | rfl | rfl
    · exact .inl rfl
    · exact .inr (.inl (hexDigitUpper_spec (b.toNat / 16) (by omega)).1)
    · exact .inr (.inl (hexDigitUpper_spec (b.toNat % 16) (by omega)).1)
  · rename_i hc
    obtain rfl := List.mem_singleton.mp h
    exact .inr (.inr ⟨hb, Bool.eq_false_iff.mpr hc⟩)

lemma escape_append (part : UrlPart) (s t : Bytes) : part.escape (s ++ t) = part.escape s ++ part.escape t :=
  List.flatMap_append

/-! ### Segments -/

def segments? (s : Bytes) : Except UrlError (List Bytes) := (Bytes.split (byte '/') s).mapM path.unescape?

lemma pieces_induction {motive : Bytes → Prop} (piece : ∀ s, byte '/' ∉ s → motive s)
    (slash : ∀ s t, byte '/' ∉ s → motive t → motive (s ++ byte '/' :: t)) (s : Bytes) : motive s := by
  induction hn : s.length using Nat.strongRecOn generalizing s with
  | _ n ih =>
    subst hn
    by_cases h : byte '/' ∈ s
    · obtain ⟨a, b, rfl, ha⟩ := List.eq_append_cons_of_mem h
      exact slash a b ha (ih b.length (by rw [List.length_append, List.length_cons]; omega) b rfl)
    · exact piece s h

lemma segments?_piece (ht : byte '/' ∉ t) (h : Spells s t) : segments? t = .ok [s] := by
  rw [segments?, Bytes.split_of_notMem ht, List.mapM_cons, (unescape?_eq_ok_iff rfl).mpr h]
  rfl

lemma segments?_slash {ss : List Bytes} (ht : byte '/' ∉ t) (h : Spells s t) (hx : segments? x = .ok ss) :
    segments? (t ++ byte '/' :: x) = .ok (s :: ss) := by
  rw [segments?] at hx
  rw [segments?, Bytes.split_append_sep ht, List.mapM_cons, (unescape?_eq_ok_iff rfl).mpr h, hx]
  rfl

lemma exists_segments (h : Spells s t) : ∃ ss, segments? t = .ok ss ∧ ss ≠ [] ∧ Bytes.join [byte '/'] ss = s ∧
    List.Forall₂ Spells ss (Bytes.split (byte '/') t) := by
  induction t using pieces_induction generalizing s with
  | piece t ht =>
    refine ⟨[s], segments?_piece ht h, List.cons_ne_nil _ _, by simp [Bytes.join], ?_⟩
    rw [Bytes.split_of_notMem ht]
    exact .cons h .nil
  | slash t x ht ih =>
    obtain ⟨a, b, rfl, ha, hb⟩ := h.exists_of_append_cons (by decide) (by decide)
    obtain ⟨ss, hss, hne, rfl, hforall⟩ := ih hb
    refine ⟨a :: ss, segments?_slash ht ha hss, List.cons_ne_nil _ _, ?_, ?_⟩
    · rw [Bytes.join_cons hne, List.append_assoc]
      rfl
    · rw [Bytes.split_append_sep ht]
      exact .cons ha hforall

lemma slash_notMem_escape (h : byte '/' ∉ s) : byte '/' ∉ path.escape s := by
  intro hmem
  rcases mem_escape (by decide) hmem with hc | hc | ⟨hc, -⟩
  · exact absurd hc (by decide)
  · exact absurd hc (by decide)
  · exact h hc

lemma segments?_escape (s : Bytes) : segments? (path.escape s) = .ok (Bytes.split (byte '/') s) := by
  induction s using pieces_induction with
  | piece s hs =>
    rw [Bytes.split_of_notMem hs]
    exact segments?_piece (slash_notMem_escape hs) (spells_escape rfl (by decide) s)
  | slash s t hs ih =>
    rw [escape_append, Bytes.split_append_sep hs]
    exact segments?_slash (slash_notMem_escape hs) (spells_escape rfl (by decide) s) ih

lemma exists_split_append (s : Bytes) :
    ∃ front last, ∀ x, byte '/' ∉ x → Bytes.split (byte '/') (s ++ x) = front ++ [last ++ x] := by
  induction s using pieces_induction with
  | piece s hs =>
    refine ⟨[], s, fun x hx => Bytes.split_of_notMem ?_⟩
    rw [List.mem_append, not_or]
    exact ⟨hs, hx⟩
  | slash s t hs ih =>
    obtain ⟨front, last, h⟩ := ih
    refine ⟨s :: front, last, fun x hx => ?_⟩
    rw [List.append_assoc, List.cons_append, Bytes.split_append_sep hs, h x hx]
    rfl

lemma exists_of_spells_slash {ss : List Bytes} (h : Spells (byte '/' :: s) t) (ht : segments? t = .ok ss)
    (hss : ∀ x ∈ ss, byte '/' ∉ x) :
    ∃ t' ss', t = byte '/' :: t' ∧ Spells s t' ∧ segments? t' = .ok ss' ∧ ∀ x ∈ ss', byte '/' ∉ x := by
  obtain ⟨ss', hss', hne, hjoin, hforall⟩ := exists_segments h
  obtain rfl : ss = ss' := Except.ok.inj (ht.symm.trans hss')
  cases t with
  | nil => exact absurd (h.unique .nil) (List.cons_ne_nil _ _)
  | cons c t =>
    by_cases hc : c = byte '/'
    · subst hc
      obtain ⟨s', hs, h⟩ := h.exists_of_cons (by decide)
      obtain rfl := (List.cons.inj hs).2
      obtain ⟨ss', ht', -⟩ := exists_segments h
      have hsegments := segments?_slash (t := []) List.not_mem_nil .nil ht'
      obtain rfl := Except.ok.inj (ht.symm.trans hsegments)
      exact ⟨t, ss', rfl, h, ht', fun x hx => hss x (List.mem_cons_of_mem _ hx)⟩
    · -- the first piece is not empty, so the first segment is not
      exfalso
      have hsplit := Bytes.split_join hne hss
      rw [hjoin, Bytes.split, if_pos (by simp)] at hsplit
      rw [← hsplit, Bytes.split, if_neg (by simpa using hc)] at hforall
      split at hforall <;>
      · cases hforall with
        | cons hfirst => cases hfirst

end MarkdownTidy.UrlPart
