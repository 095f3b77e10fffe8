import Mathlib.Data.List.TakeWhile
import MarkdownTidy.Proofs.Text.CodePoints
import MarkdownTidy.Text.Blank

/-! Trimming white space, and texts that have none. -/

namespace MarkdownTidy.Text

def Unspaced (s : Bytes) : Prop := ∀ r ∈ Utf8.codePoints s, isBlank r.code = false

instance (s : Bytes) : Decidable (Unspaced s) :=
  inferInstanceAs (Decidable (∀ r ∈ Utf8.codePoints s, isBlank r.code = false))

def startsBlank (s : Bytes) : Bool := (Utf8.codePoints s).head?.any fun r => isBlank r.code

lemma isBlank_of_isSpace {b : UInt8} (h : Bytes.isSpace b = true) : b < 0x80 ∧ isBlank b.toNat = true := by
  simp only [Bytes.isSpace, Bool.or_eq_true, beq_iff_eq] at h
  obtain (((rfl | rfl) | rfl) | rfl) | rfl := h <;> decide

lemma trimStartPoints_eq_dropWhile (l : List Utf8.CodePoint) :
    trimStartPoints l = l.dropWhile fun r => isBlank r.code := by
  induction l with
  | nil => rfl
  | cons r l ih => by_cases h : isBlank r.code = true <;> simp [trimStartPoints, h, ih]

lemma isBlank_of_head?_trimStartPoints {l : List Utf8.CodePoint} {r : Utf8.CodePoint}
    (h : (trimStartPoints l).head? = some r) : isBlank r.code = false := by
  have hh := List.head?_dropWhile_not (fun r : Utf8.CodePoint => isBlank r.code) l
  rw [← trimStartPoints_eq_dropWhile, h] at hh
  simpa using hh

lemma Unspaced.startsBlank_eq_false {s : Bytes} (h : Unspaced s) : startsBlank s = false := by
  unfold startsBlank
  cases hc : Utf8.codePoints s with
  | nil => rfl
  | cons r l => exact h r (by simp [hc])

lemma Unspaced.isBlank_eq_false {s : Bytes} (h : Unspaced s) {b : UInt8} (hb : b ∈ s)
    (ha : b < 0x80) : isBlank b.toNat = false := by
  obtain ⟨r, hr, he⟩ := Utf8.exists_codePoint_of_mem hb ha
  exact he ▸ h r hr

def trimPoints (l : List Utf8.CodePoint) : List Utf8.CodePoint :=
  (trimStartPoints (trimStartPoints l).reverse).reverse

lemma trimSpace_eq (s : Bytes) :
    trimSpace s = (trimPoints (Utf8.codePoints s)).flatMap (·.bytes) := rfl

lemma trimPoints_split (l : List Utf8.CodePoint) : ∃ p q, l = p ++ trimPoints l ++ q := by
  simp only [trimPoints, trimStartPoints_eq_dropWhile]
  refine ⟨l.takeWhile fun r => isBlank r.code,
    (((l.dropWhile fun r => isBlank r.code).reverse).takeWhile fun r => isBlank r.code).reverse, ?_⟩
  rw [List.append_assoc, ← List.reverse_append, List.takeWhile_append_dropWhile, List.reverse_reverse,
    List.takeWhile_append_dropWhile]

lemma codePoints_trimSpace (s : Bytes) :
    Utf8.codePoints (trimSpace s) = trimPoints (Utf8.codePoints s) := by
  obtain ⟨p, q, h⟩ := trimPoints_split (Utf8.codePoints s)
  exact Utf8.codePoints_isInfix h

lemma trimSpace_infix (s : Bytes) : trimSpace s <:+: s := by
  obtain ⟨p, q, h⟩ := trimPoints_split (Utf8.codePoints s)
  refine ⟨p.flatMap (·.bytes), q.flatMap (·.bytes), ?_⟩
  rw [trimSpace_eq, ← List.flatMap_append, ← List.flatMap_append, ← h, Utf8.flatMap_bytes_codePoints]

lemma startsBlank_trimSpace (s : Bytes) : startsBlank (trimSpace s) = false := by
  rw [startsBlank, codePoints_trimSpace, trimPoints, trimStartPoints_eq_dropWhile (List.reverse _)]
  generalize hl : trimStartPoints (Utf8.codePoints s) = l
  cases hh : ((l.reverse.dropWhile fun r => isBlank r.code).reverse).head? with
  | none => rfl
  | some r =>
    have hp : (l.reverse.dropWhile fun r => isBlank r.code).reverse <+: l := by
      rw [← List.reverse_suffix, List.reverse_reverse]
      exact List.dropWhile_suffix _
    obtain ⟨q, hq⟩ := hp
    have hr : l.head? = some r := by
      rw [← hq, List.head?_append, hh]
      rfl
    exact isBlank_of_head?_trimStartPoints (hl ▸ hr)

lemma isBlank_of_getLast?_trimSpace {s : Bytes} {r : Utf8.CodePoint}
    (h : (Utf8.codePoints (trimSpace s)).getLast? = some r) : isBlank r.code = false := by
  rw [codePoints_trimSpace, trimPoints, List.getLast?_reverse] at h
  exact isBlank_of_head?_trimStartPoints h

lemma isSpace_head?_trimSpace {s : Bytes} {b : UInt8} (h : (trimSpace s).head? = some b) : Bytes.isSpace b = false := by
  have hs := startsBlank_trimSpace s
  obtain ⟨t, ht⟩ := List.head?_eq_some_iff.mp h
  by_contra hb
  obtain ⟨hlt, hblank⟩ := isBlank_of_isSpace (by simpa using hb)
  rw [ht, startsBlank, Utf8.codePoints_ascii_cons hlt] at hs
  simp [hblank] at hs

lemma isSpace_getLast?_trimSpace {s : Bytes} {b : UInt8} (h : (trimSpace s).getLast? = some b) :
    Bytes.isSpace b = false := by
  obtain ⟨t, ht⟩ := List.getLast?_eq_some_iff.mp h
  by_contra hb
  obtain ⟨hlt, hblank⟩ := isBlank_of_isSpace (by simpa using hb)
  have hlast := @isBlank_of_getLast?_trimSpace s ⟨b.toNat, [b]⟩ (by rw [ht, Utf8.codePoints_append_ascii hlt]; simp)
  rw [hblank] at hlast
  cases hlast

lemma trimPoints_append {p m q : List Utf8.CodePoint} (hp : ∀ r ∈ p, isBlank r.code = true)
    (hq : ∀ r ∈ q, isBlank r.code = true) (hf : ∀ r, m.head? = some r → isBlank r.code = false)
    (hl : ∀ r, m.getLast? = some r → isBlank r.code = false) : trimPoints (p ++ m ++ q) = m := by
  have hm : ∀ l : List Utf8.CodePoint, (∀ r, l.head? = some r → isBlank r.code = false) →
      l.dropWhile (fun r => isBlank r.code) = l := by
    intro l h
    cases l with
    | nil => rfl
    | cons r l => simp [h r rfl]
  simp only [trimPoints, trimStartPoints_eq_dropWhile]
  rw [List.append_assoc, List.dropWhile_append_of_pos hp]
  cases m with
  | nil =>
    have hd : (q ++ []).dropWhile (fun r : Utf8.CodePoint => isBlank r.code) = [] :=
      List.dropWhile_append_of_pos hq
    rw [List.append_nil] at hd
    simp [hd]
  | cons r m =>
    have hs : (r :: m ++ q).dropWhile (fun r => isBlank r.code) = r :: m ++ q :=
      hm _ fun x hx => hf x (by simpa using hx)
    rw [hs, List.reverse_append, List.dropWhile_append_of_pos (by simpa using hq),
      hm (r :: m).reverse (by simpa only [List.head?_reverse] using hl), List.reverse_reverse]

lemma trimSpace_eq_self {s : Bytes} (hf : startsBlank s = false)
    (hl : ∀ r, (Utf8.codePoints s).getLast? = some r → isBlank r.code = false) : trimSpace s = s := by
  have hh : ∀ r, (Utf8.codePoints s).head? = some r → isBlank r.code = false := by
    intro r hr
    simpa [startsBlank, hr] using hf
  have h := trimPoints_append (p := []) (q := []) (by simp) (by simp) hh hl
  rw [List.nil_append, List.append_nil] at h
  rw [trimSpace_eq, h, Utf8.flatMap_bytes_codePoints]

lemma Unspaced.trimSpace_eq {s : Bytes} (h : Unspaced s) : trimSpace s = s :=
  trimSpace_eq_self h.startsBlank_eq_false fun r hr => h r (List.mem_of_getLast? hr)

def trimStart (s : Bytes) : Bytes := (trimStartPoints (Utf8.codePoints s)).flatMap (·.bytes)

lemma trimStart_append {c : UInt8} (hc : c < 0x80) (hb : isBlank c.toNat = false) (s t : Bytes) :
    trimStart (s ++ c :: t) = trimStart s ++ c :: t := by
  rw [trimStart, trimStart, Utf8.codePoints_append_ascii hc, trimStartPoints_eq_dropWhile,
    trimStartPoints_eq_dropWhile, List.dropWhile_append]
  split
  · rename_i he
    rw [List.isEmpty_iff.mp he]
    simp [hb]
  · simp

lemma trimStart_eq_self {s : Bytes} (h : startsBlank s = false) : trimStart s = s := by
  rw [trimStart, trimStartPoints_eq_dropWhile]
  cases hc : Utf8.codePoints s with
  | nil => rw [← Utf8.flatMap_bytes_codePoints s, hc]; rfl
  | cons r l =>
    have hr : isBlank r.code = false := by simpa [startsBlank, hc] using h
    rw [List.dropWhile_cons, hr, ← Utf8.flatMap_bytes_codePoints s, hc]
    rfl

lemma trimStart_suffix (s : Bytes) : trimStart s <:+ s := by
  have h : trimStartPoints (Utf8.codePoints s) <:+ Utf8.codePoints s := by
    rw [trimStartPoints_eq_dropWhile]
    exact List.dropWhile_suffix _
  obtain ⟨p, hp⟩ := h
  refine ⟨p.flatMap (·.bytes), ?_⟩
  rw [trimStart, ← List.flatMap_append, hp, Utf8.flatMap_bytes_codePoints]

lemma startsBlank_trimStart (s : Bytes) : startsBlank (trimStart s) = false := by
  have h : Utf8.codePoints s = (Utf8.codePoints s).takeWhile (fun r => isBlank r.code) ++
      trimStartPoints (Utf8.codePoints s) := by
    rw [trimStartPoints_eq_dropWhile, List.takeWhile_append_dropWhile]
  rw [startsBlank, trimStart, Utf8.codePoints_isSuffix h]
  cases hh : (trimStartPoints (Utf8.codePoints s)).head? with
  | none => rfl
  | some r => exact isBlank_of_head?_trimStartPoints hh

lemma trimSpace_append {c : UInt8} (hc : c < 0x80) (hb : isBlank c.toNat = false) (s : Bytes) :
    trimSpace (s ++ [c]) = trimStart s ++ [c] := by
  have hsplit : Utf8.codePoints (s ++ [c]) =
      (Utf8.codePoints s).takeWhile (fun r => isBlank r.code) ++
        (trimStartPoints (Utf8.codePoints s) ++ [⟨c.toNat, [c]⟩]) ++ [] := by
    rw [trimStartPoints_eq_dropWhile, List.append_nil, ← List.append_assoc,
      List.takeWhile_append_dropWhile, Utf8.codePoints_append_ascii hc]
    rfl
  have hf : ∀ r, (trimStartPoints (Utf8.codePoints s) ++ [(⟨c.toNat, [c]⟩ : Utf8.CodePoint)]).head? =
      some r → isBlank r.code = false := by
    intro r hr
    cases hd : (trimStartPoints (Utf8.codePoints s)).head? with
    | none =>
      obtain rfl : ⟨c.toNat, [c]⟩ = r := by simpa [List.head?_append, hd] using hr
      exact hb
    | some x =>
      obtain rfl : x = r := by simpa [List.head?_append, hd] using hr
      exact isBlank_of_head?_trimStartPoints hd
  have hp : ∀ r ∈ (Utf8.codePoints s).takeWhile (fun r => isBlank r.code), isBlank r.code = true := by
    intro r hr
    simpa using List.mem_takeWhile_imp hr
  rw [trimSpace_eq, hsplit, trimPoints_append hp (by simp) hf (by simpa using hb),
    List.flatMap_append, trimStart]
  rfl

lemma trimSpace_spaced {s : Bytes} (hf : startsBlank s = false)
    (hl : ∀ r, (Utf8.codePoints s).getLast? = some r → isBlank r.code = false) :
    trimSpace (32 :: (s ++ [32])) = s := by
  have hh : ∀ r, (Utf8.codePoints s).head? = some r → isBlank r.code = false := by
    intro r hr
    simpa [startsBlank, hr] using hf
  have hsplit : Utf8.codePoints (32 :: (s ++ [32])) =
      [⟨32, [32]⟩] ++ Utf8.codePoints s ++ [⟨32, [32]⟩] := by
    rw [Utf8.codePoints_ascii_cons (by decide), Utf8.codePoints_append_ascii (by decide)]
    rfl
  rw [trimSpace_eq, hsplit, trimPoints_append (by decide) (by decide) hh hl,
    Utf8.flatMap_bytes_codePoints]

end MarkdownTidy.Text
