import Mathlib.Tactic.Common
import MarkdownTidy.Bytes
import MarkdownTidy.Proofs.Text.CodePoints
import MarkdownTidy.Text.Case

/-! Lowering letters. Lowering the ASCII letters of a text does not change what it is equal to up to case, and lowering a
text makes no ASCII bytes but letters: every other one was there before. -/

namespace MarkdownTidy.Bytes

lemma isUpper_iff {b : UInt8} : isUpper b = true ↔ 65 ≤ b.toNat ∧ b.toNat ≤ 90 := by
  simp [isUpper, UInt8.le_iff_toNat_le]

lemma lowerByte_of_upper {b : UInt8} (h : isUpper b = true) : (lowerByte b).toNat = b.toNat + 32 := by
  have h32 : (32 : UInt8).toNat = 32 := rfl
  have hb := isUpper_iff.mp h
  rw [lowerByte, if_pos h, UInt8.toNat_add]
  omega

lemma lowerByte_of_not_upper {b : UInt8} (h : ¬ isUpper b = true) : lowerByte b = b := if_neg h

lemma lowerByte_of_ge (b : UInt8) (h : ¬ b < 0x80) : lowerByte b = b := by
  apply lowerByte_of_not_upper
  have h80 : (0x80 : UInt8).toNat = 128 := rfl
  rw [UInt8.lt_iff_toNat_lt] at h
  rw [isUpper_iff]
  omega

lemma lowerByte_lt (b : UInt8) (h : b < 0x80) : lowerByte b < 0x80 := by
  by_cases hb : isUpper b = true
  · have h80 : (0x80 : UInt8).toNat = 128 := rfl
    have hb' := isUpper_iff.mp hb
    rw [UInt8.lt_iff_toNat_lt, lowerByte_of_upper hb]
    omega
  · rwa [lowerByte_of_not_upper hb]

lemma lowerByte_eq_iff {b c : UInt8} (hc : isLetter c = false) : lowerByte b = c ↔ b = c := by
  by_cases hb : isUpper b = true
  · have hb' := isUpper_iff.mp hb
    have hl := lowerByte_of_upper hb
    have hc' : ¬ (65 ≤ c.toNat ∧ c.toNat ≤ 90) ∧ ¬ (97 ≤ c.toNat ∧ c.toNat ≤ 122) := by
      simpa [isLetter, isUpper, isLower, UInt8.le_iff_toNat_le] using hc
    constructor
    · rintro rfl
      omega
    · rintro rfl
      omega
  · rw [lowerByte_of_not_upper hb]

lemma lowerByte_beq (b : UInt8) {c : UInt8} (hc : isLetter c = false) :
    (lowerByte b == c) = (b == c) :=
  Bool.eq_iff_iff.mpr (by simpa using lowerByte_eq_iff hc)

lemma isAlphanumeric_of_isHexDigit {b : UInt8} (h : isHexDigit b = true) : isAlphanumeric b = true := by
  simp only [isHexDigit, isAlphanumeric, isLetter, isUpper, isLower, isDigit, Bool.or_eq_true, Bool.and_eq_true,
    decide_eq_true_eq, UInt8.le_iff_toNat_le, UInt8.reduceToNat] at h ⊢
  omega

end MarkdownTidy.Bytes

namespace MarkdownTidy.Text

lemma lowerAscii_cons_of_ge {c : UInt8} (hc : ¬ c < 0x80) (s : Bytes) :
    Bytes.lowerAscii (c :: s) = c :: Bytes.lowerAscii s := by
  simp [Bytes.lowerAscii, Bytes.lowerByte_of_ge c hc]

lemma decode_lowerAscii (c : UInt8) (s : Bytes) :
    Utf8.decode (c :: Bytes.lowerAscii s) = Utf8.decode (c :: s) := by
  -- The first ASCII byte ends the sequence, and the bytes before it stay as they are.
  have hcut : ∀ (p : Bytes) {x : UInt8} (hx : x < 0x80) (t : Bytes),
      Utf8.decode (c :: p ++ Bytes.lowerAscii (x :: t)) = Utf8.decode (c :: p ++ x :: t) := by
    intro p x hx t
    have hl := Utf8.isStart_of_lt (Bytes.lowerByte_lt x hx)
    exact (Utf8.decode_append hl c p (Bytes.lowerAscii t)).trans
      (Utf8.decode_append (Utf8.isStart_of_lt hx) c p t).symm
  match s with
  | [] => rfl
  | x :: s =>
    by_cases hx : x < 0x80
    · exact hcut [] hx s
    · rw [lowerAscii_cons_of_ge hx]
      match s with
      | [] => rfl
      | y :: s =>
        by_cases hy : y < 0x80
        · exact hcut [x] hy s
        · rw [lowerAscii_cons_of_ge hy]
          match s with
          | [] => rfl
          | z :: s =>
            by_cases hz : z < 0x80
            · exact hcut [x, y] hz s
            · rw [lowerAscii_cons_of_ge hz]
              simp [Utf8.decode]

lemma simpleFold_letter (n : Fin 26) : simpleFold (n.val + 65 + 32) = simpleFold (n.val + 65) := by
  revert n
  decide

lemma simpleFold_lowerByte (b : UInt8) : simpleFold (Bytes.lowerByte b).toNat = simpleFold b.toNat := by
  by_cases hb : Bytes.isUpper b = true
  · have hb' := Bytes.isUpper_iff.mp hb
    have h := simpleFold_letter ⟨b.toNat - 65, by omega⟩
    rw [Bytes.lowerByte_of_upper hb]
    rwa [show b.toNat - 65 + 65 = b.toNat by omega] at h
  · rw [Bytes.lowerByte_of_not_upper hb]

lemma map_simpleFold_lowerAscii (s : Bytes) :
    (Utf8.codePoints (Bytes.lowerAscii s)).map (fun r => simpleFold r.code) =
      (Utf8.codePoints s).map (fun r => simpleFold r.code) := by
  induction s using Utf8.codePoint_induction with
  | nil => rfl
  | cons c s ih =>
    by_cases hc : c < 0x80
    · have hd : Utf8.decode (c :: s) = (c.toNat, 1) := by simp [Utf8.decode, hc]
      rw [hd] at ih
      rw [show Bytes.lowerAscii (c :: s) = Bytes.lowerByte c :: Bytes.lowerAscii s from rfl,
        Utf8.codePoints_ascii_cons (Bytes.lowerByte_lt c hc), Utf8.codePoints_ascii_cons hc,
        List.map_cons, List.map_cons, simpleFold_lowerByte c]
      exact congrArg _ ih
    · have hr : (c :: Bytes.lowerAscii s).drop (Utf8.decode (c :: s)).2 =
          Bytes.lowerAscii ((c :: s).drop (Utf8.decode (c :: s)).2) := by
        rw [← lowerAscii_cons_of_ge hc, Bytes.lowerAscii, Bytes.lowerAscii, List.map_drop]
      rw [lowerAscii_cons_of_ge hc, Utf8.codePoints_cons, Utf8.codePoints_cons c s,
        decode_lowerAscii, hr, List.map_cons, List.map_cons, ih]

lemma equalFold_lowerAscii (s : Bytes) : equalFold s (Bytes.lowerAscii s) = true := by
  rw [equalFold, map_simpleFold_lowerAscii]
  exact beq_self_eq_true _

end MarkdownTidy.Text

namespace MarkdownTidy.Utf8

/-- Only an ASCII byte is read as an ASCII code point. -/
lemma lt_of_decode_lt {a : UInt8} {s : Bytes} (h : (decode (a :: s)).1 < 128) : a < 0x80 := by
  have h2 : between 0xC2 0xDF a = true → 2 ≤ a.toNat % 32 := by
    simp only [between, Bool.and_eq_true, decide_eq_true_eq, UInt8.le_iff_toNat_le, UInt8.reduceToNat]
    omega
  have h3 : ∀ b, between 0xE0 0xEF a = true →
      between (if a == 0xE0 then 0xA0 else 0x80) (if a == 0xED then 0x9F else 0xBF) b = true →
      128 ≤ a.toNat % 16 * 4096 + low b * 64 := by
    intro b
    simp only [between, Bool.and_eq_true, decide_eq_true_eq, UInt8.le_iff_toNat_le, UInt8.reduceToNat, low,
      beq_iff_eq, ← UInt8.toNat_inj, apply_ite UInt8.toNat]
    repeat' split
    all_goals omega
  have h4 : ∀ b, between 0xF0 0xF4 a = true →
      between (if a == 0xF0 then 0x90 else 0x80) (if a == 0xF4 then 0x8F else 0xBF) b = true →
      128 ≤ a.toNat % 8 * 262144 + low b * 4096 := by
    intro b
    simp only [between, Bool.and_eq_true, decide_eq_true_eq, UInt8.le_iff_toNat_le, UInt8.reduceToNat, low,
      beq_iff_eq, ← UInt8.toNat_inj, apply_ite UInt8.toNat]
    repeat' split
    all_goals omega
  have hr : ¬ replacement < 128 := by decide
  by_contra ha
  simp only [decode, if_neg ha] at h
  generalize (if a == 0xE0 then (0xA0 : UInt8) else 0x80) = lo3, (if a == 0xED then (0x9F : UInt8) else 0xBF) = hi3,
    (if a == 0xF0 then (0x90 : UInt8) else 0x80) = lo4, (if a == 0xF4 then (0x8F : UInt8) else 0xBF) = hi4 at h h3 h4
  split at h
  · rename_i hb
    have := h2 hb
    split at h
    · split at h
      · dsimp only at h
        omega
      · exact hr h
    · exact hr h
  split at h
  · rename_i hb
    split at h
    · split at h
      · rename_i hc
        rw [Bool.and_eq_true] at hc
        have := h3 _ hb hc.1
        dsimp only at h
        omega
      · exact hr h
    · exact hr h
  split at h
  · rename_i hb
    split at h
    · split at h
      · rename_i hc
        rw [Bool.and_eq_true, Bool.and_eq_true] at hc
        have := h4 _ hb hc.1.1
        dsimp only at h
        omega
      · exact hr h
    · exact hr h
  · exact hr h

lemma encode_ne_nil (n : Nat) : encode n ≠ [] := by
  rw [encode]
  repeat' split
  all_goals exact List.cons_ne_nil _ _

lemma le_of_mem_encode {n : Nat} (hn : 128 ≤ n) {b : UInt8} (hb : b ∈ encode n) : 128 ≤ b.toNat := by
  have hbyte : ∀ k, 128 ≤ k → k < 256 → 128 ≤ (Nat.toUInt8 k).toNat := fun k hk hk' => by
    rwa [Nat.toUInt8, UInt8.toNat_ofNat', Nat.mod_eq_of_lt hk']
  rw [encode] at hb
  repeat' split at hb
  all_goals simp only [List.mem_cons, List.not_mem_nil, or_false] at hb
  · omega
  · rcases hb with rfl | rfl <;> exact hbyte _ (by omega) (by omega)
  · rcases hb with rfl | rfl | rfl <;> decide
  · rcases hb with rfl | rfl | rfl <;> exact hbyte _ (by omega) (by omega)
  · rename_i hn' _
    rw [Bool.or_eq_true, not_or] at hn'
    rcases hb with rfl | rfl | rfl | rfl <;> exact hbyte _ (by omega) (by simp at hn'; omega)

end MarkdownTidy.Utf8

namespace MarkdownTidy.Text

lemma lowerTable_image : ∀ r ∈ lowerTable, 128 ≤ r.image ∨ (r.lo = r.hi ∧ (r.image = 0x69 ∨ r.image = 0x6B)) := by
  decide +kernel

lemma lowerCode_cases (n : Nat) :
    (n < 128 ∧ lowerCode n = (Bytes.lowerByte n.toUInt8).toNat) ∨
      128 ≤ lowerCode n ∨ lowerCode n = 0x69 ∨ lowerCode n = 0x6B := by
  rw [lowerCode]
  split
  · exact .inl ⟨‹_›, rfl⟩
  · refine .inr ?_
    rw [CaseTable.apply]
    split
    · rename_i r hr
      have hcovers := List.find?_some hr
      simp only [CaseRun.covers, Bool.and_eq_true, decide_eq_true_eq] at hcovers
      rcases lowerTable_image r (List.mem_of_find?_eq_some hr) with h | ⟨he, h⟩
      · exact .inl (by omega)
      · exact .inr (by omega)
    · exact .inl (by omega)

lemma mem_of_codePoint {r : Utf8.CodePoint} {s : Bytes} (hr : r ∈ Utf8.codePoints s) (h : r.code < 128) :
    r.code.toUInt8 ∈ s := by
  induction s using Utf8.codePoint_induction with
  | nil => cases hr
  | cons c s ih =>
    rw [Utf8.codePoints_cons] at hr
    rcases List.mem_cons.mp hr with rfl | hr
    · have hc := Utf8.lt_of_decode_lt h
      have hd : Utf8.decode (c :: s) = (c.toNat, 1) := by simp [Utf8.decode, hc]
      simp [hd]
    · exact List.mem_of_mem_drop (ih hr)

lemma mem_lower {b : UInt8} {s : Bytes} (h : b ∈ lower s) (hb : b < 0x80) :
    b = 0x69 ∨ b = 0x6B ∨ ∃ c ∈ s, b = Bytes.lowerByte c := by
  rw [lower] at h
  split at h
  · obtain ⟨c, hc, rfl⟩ := List.mem_map.mp h
    exact .inr (.inr ⟨c, hc, rfl⟩)
  · obtain ⟨r, hr, hmem⟩ := List.mem_flatMap.mp h
    have hcode : ∀ n, n < 128 → b ∈ Utf8.encode n → b = n.toUInt8 := fun n hn hm => by
      simpa [Utf8.encode, hn] using hm
    rcases lowerCode_cases r.code with ⟨hlt, he⟩ | hge | he | he
    · have hmem' := mem_of_codePoint hr hlt
      have hlow : (Bytes.lowerByte r.code.toUInt8).toNat < 128 := Bytes.lowerByte_lt _ (by
        rw [UInt8.lt_iff_toNat_lt, Nat.toUInt8, UInt8.toNat_ofNat', Nat.mod_eq_of_lt (by omega)]
        exact hlt)
      rw [he] at hmem
      exact .inr (.inr ⟨_, hmem', by simpa using hcode _ hlow hmem⟩)
    · have hge := Utf8.le_of_mem_encode hge hmem
      rw [UInt8.lt_iff_toNat_lt] at hb
      exact absurd hge (by simpa using hb)
    · rw [he] at hmem
      exact .inl (hcode _ (by decide) hmem)
    · rw [he] at hmem
      exact .inr (.inl (hcode _ (by decide) hmem))

lemma not_isUpper_of_mem_lower {b : UInt8} {s : Bytes} (h : b ∈ lower s) : Bytes.isUpper b = false := by
  by_cases hb : b < 0x80
  · rcases mem_lower h hb with rfl | rfl | ⟨c, -, rfl⟩
    · rfl
    · rfl
    · rw [Bool.eq_false_iff, Ne, Bytes.isUpper_iff]
      by_cases hc : Bytes.isUpper c = true
      · have := Bytes.isUpper_iff.mp hc
        rw [Bytes.lowerByte_of_upper hc]
        omega
      · rwa [Bytes.lowerByte_of_not_upper hc, ← Bytes.isUpper_iff]
  · rw [UInt8.lt_iff_toNat_lt] at hb
    rw [Bool.eq_false_iff, Ne, Bytes.isUpper_iff]
    simp at hb
    omega

lemma head?_lower {c : UInt8} (hc : c < 0x80) (hl : Bytes.isLetter c = false) (s : Bytes) :
    (lower s).head? = some c ↔ s.head? = some c := by
  cases s with
  | nil => rfl
  | cons b s =>
    rw [lower]
    split
    · simpa using Bytes.lowerByte_eq_iff hl
    rw [Utf8.codePoints_cons, List.flatMap_cons]
    by_cases hb : b < 0x80
    · have hd : Utf8.decode (b :: s) = (b.toNat, 1) := by simp [Utf8.decode, hb]
      have hlow : (Bytes.lowerByte b).toNat < 128 := Bytes.lowerByte_lt b hb
      have hcode : lowerCode b.toNat = (Bytes.lowerByte b).toNat := by
        have hn : b.toNat < 128 := UInt8.lt_iff_toNat_lt.mp hb
        rw [lowerCode, if_pos hn]
        simp
      simp only [hd, hcode, Utf8.encode, if_pos hlow]
      simpa using Bytes.lowerByte_eq_iff hl
    · have hne : ∀ x : UInt8, ¬ x < 0x80 → ¬ some x = some c := fun x hx he => hx (Option.some.inj he ▸ hc)
      refine iff_of_false ?_ (hne b hb)
      rcases lowerCode_cases (Utf8.decode (b :: s)).1 with ⟨hlt, -⟩ | hge | he | he
      · exact absurd (Utf8.lt_of_decode_lt hlt) hb
      · obtain ⟨x, t, hx⟩ := List.exists_cons_of_ne_nil (Utf8.encode_ne_nil (lowerCode (Utf8.decode (b :: s)).1))
        have hge := Utf8.le_of_mem_encode hge (hx ▸ List.mem_cons_self)
        rw [hx]
        exact hne x (by rw [UInt8.lt_iff_toNat_lt]; simpa using hge)
      · rw [he]
        rintro h
        obtain rfl : 0x69 = c := by simpa [Utf8.encode] using h
        cases hl
      · rw [he]
        rintro h
        obtain rfl : 0x6B = c := by simpa [Utf8.encode] using h
        cases hl

lemma simpleFoldTable_image : ∀ r ∈ simpleFoldTable, 128 ≤ r.image ∨ (r.lo = r.hi ∧ (r.image = 0x6B ∨ r.image = 0x73)) := by
  decide +kernel

lemma simpleFold_cases (n : Nat) :
    (n < 128 ∧ simpleFold n = (Bytes.lowerByte n.toUInt8).toNat) ∨
      128 ≤ simpleFold n ∨ simpleFold n = 0x6B ∨ simpleFold n = 0x73 := by
  rw [simpleFold]
  split
  · exact .inl ⟨‹_›, rfl⟩
  · refine .inr ?_
    rw [CaseTable.apply]
    split
    · rename_i r hr
      have hcovers := List.find?_some hr
      simp only [CaseRun.covers, Bool.and_eq_true, decide_eq_true_eq] at hcovers
      rcases simpleFoldTable_image r (List.mem_of_find?_eq_some hr) with h | ⟨he, h⟩
      · exact .inl (by omega)
      · exact .inr (by omega)
    · exact .inl (by omega)

lemma lowerAscii_of_map_simpleFold {s : Bytes} {codes : List Nat} (hcodes : ∀ n ∈ codes, n < 128 ∧ n ≠ 0x6B ∧ n ≠ 0x73)
    (h : (Utf8.codePoints s).map (fun r => simpleFold r.code) = codes) : Bytes.lowerAscii s = codes.map Nat.toUInt8 := by
  induction s using Utf8.codePoint_induction generalizing codes with
  | nil => subst h; rfl
  | cons c s ih =>
    subst h
    rw [Utf8.codePoints_cons, List.map_cons, List.forall_mem_cons] at hcodes
    rcases simpleFold_cases (Utf8.decode (c :: s)).1 with ⟨hlt, hfold⟩ | hge | he | he
    · have hc := Utf8.lt_of_decode_lt hlt
      have hd : Utf8.decode (c :: s) = (c.toNat, 1) := by simp [Utf8.decode, hc]
      rw [hd] at ih hcodes hfold
      have hrest := ih hcodes.2 rfl
      rw [Utf8.codePoints_ascii_cons hc, List.map_cons, List.map_cons, hfold]
      simpa [Bytes.lowerAscii] using hrest
    · exact absurd hcodes.1.1 (Nat.not_lt.mpr hge)
    · exact absurd he hcodes.1.2.1
    · exact absurd he hcodes.1.2.2

end MarkdownTidy.Text
