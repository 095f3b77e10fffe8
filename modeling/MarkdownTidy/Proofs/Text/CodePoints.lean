import Mathlib.Tactic.Common
import MarkdownTidy.Text.Case
import MarkdownTidy.Text.Utf8

/-! Reading a text code point by code point. Where a byte that can begin a sequence stands, the code
points before it do not depend on what follows. -/

namespace MarkdownTidy.Utf8

lemma decode_size_pos (c : UInt8) (s : Bytes) : 0 < (decode (c :: s)).2 := by
  unfold decode
  grind

lemma decode_size_le (s : Bytes) : (decode s).2 ≤ s.length := by
  fun_cases decode s <;> simp

@[simp] lemma codePoints_nil : codePoints [] = [] := rfl

lemma codePointsUpTo_of_le {fuel : Nat} {s : Bytes} (h : s.length ≤ fuel) :
    codePointsUpTo fuel s = codePoints s := by
  unfold codePoints
  induction fuel using Nat.strongRecOn generalizing s with
  | _ fuel ih =>
    match fuel, s with
    | 0, [] => rfl
    | fuel + 1, [] => rfl
    | fuel + 1, c :: s =>
      have hp := decode_size_pos c s
      have hd : ((c :: s).drop (decode (c :: s)).2).length ≤ s.length := by
        simp only [List.length_drop, List.length_cons]
        omega
      simp only [List.length_cons] at h ⊢
      simp only [codePointsUpTo]
      rw [ih fuel (by omega) (by omega)]
      rcases Nat.lt_or_ge s.length (fuel + 1) with hs | hs
      · rw [ih s.length hs hd]
      · omega

lemma codePoints_cons (c : UInt8) (s : Bytes) :
    codePoints (c :: s) = ⟨(decode (c :: s)).1, (c :: s).take (decode (c :: s)).2⟩ ::
      codePoints ((c :: s).drop (decode (c :: s)).2) := by
  have hp := decode_size_pos c s
  have hd : ((c :: s).drop (decode (c :: s)).2).length ≤ s.length := by
    simp only [List.length_drop, List.length_cons]
    omega
  rw [← codePointsUpTo_of_le hd]
  rfl

lemma codePoint_induction {motive : Bytes → Prop} (nil : motive [])
    (cons : ∀ c s, motive ((c :: s).drop (decode (c :: s)).2) → motive (c :: s)) (s : Bytes) :
    motive s := by
  induction hn : s.length using Nat.strongRecOn generalizing s with
  | _ n ih =>
    match s with
    | [] => exact nil
    | c :: s =>
      have hp := decode_size_pos c s
      refine cons c s (ih _ ?_ _ rfl)
      rw [← hn]
      simp only [List.length_drop, List.length_cons]
      omega

@[simp] lemma flatMap_bytes_codePoints (s : Bytes) : (codePoints s).flatMap (·.bytes) = s := by
  induction s using codePoint_induction with
  | nil => rfl
  | cons c s ih =>
    rw [codePoints_cons, List.flatMap_cons, ih]
    exact List.take_append_drop _ _

lemma between_eq_false {lo hi b : UInt8} (hb : isStart b = true) (hl : 0x80 ≤ lo) (hh : hi ≤ 0xBF) :
    between lo hi b = false := by
  simp only [isStart, tail, between, Bool.not_eq_true', Bool.and_eq_false_iff,
    decide_eq_false_iff_not] at hb ⊢
  rw [UInt8.le_iff_toNat_le] at hl hh
  simp only [UInt8.le_iff_toNat_le] at hb ⊢
  omega

lemma isStart_of_lt {b : UInt8} (h : b < 0x80) : isStart b = true := by
  simp only [isStart, tail, between, Bool.not_eq_true', Bool.and_eq_false_iff,
    decide_eq_false_iff_not]
  rw [UInt8.lt_iff_toNat_lt] at h
  simp only [UInt8.le_iff_toNat_le]
  exact Or.inl (by simpa using h)

lemma decode_append {b : UInt8} (hb : isStart b = true) (c : UInt8) (s t : Bytes) :
    decode (c :: s ++ b :: t) = decode (c :: s) := by
  have ht : tail b = false := by simpa [isStart] using hb
  have h3 : between (if c = 0xE0 then 0xA0 else 0x80) (if c = 0xED then 0x9F else 0xBF) b = false := by
    apply between_eq_false hb <;> split <;> decide
  have h4 : between (if c = 0xF0 then 0x90 else 0x80) (if c = 0xF4 then 0x8F else 0xBF) b = false := by
    apply between_eq_false hb <;> split <;> decide
  match s with
  | [] => cases t with
    | nil => simp [decode, ht]
    | cons d t => cases t <;> simp [decode, ht, h3, h4]
  | [x] => cases t <;> simp [decode, ht]
  | [x, y] => simp [decode, ht]
  | x :: y :: z :: s => simp [decode]

lemma codePoints_append {b : UInt8} (hb : isStart b = true) (s t : Bytes) :
    codePoints (s ++ b :: t) = codePoints s ++ codePoints (b :: t) := by
  induction s using codePoint_induction with
  | nil => rfl
  | cons c s ih =>
    have hd : (decode (c :: s ++ b :: t)) = decode (c :: s) := decode_append hb c s t
    have hl : (decode (c :: s)).2 ≤ (c :: s).length := decode_size_le _
    rw [codePoints_cons c s, List.cons_append, codePoints_cons c (s ++ b :: t), ← List.cons_append,
      hd, List.take_append_of_le_length hl, List.drop_append_of_le_length hl, ih]
    rfl

lemma codePoints_ascii_cons {b : UInt8} (h : b < 0x80) (s : Bytes) :
    codePoints (b :: s) = ⟨b.toNat, [b]⟩ :: codePoints s := by
  have hd : decode (b :: s) = (b.toNat, 1) := by simp [decode, h]
  rw [codePoints_cons, hd]
  rfl

lemma codePoints_append_ascii {b : UInt8} (h : b < 0x80) (s t : Bytes) :
    codePoints (s ++ b :: t) = codePoints s ++ ⟨b.toNat, [b]⟩ :: codePoints t := by
  rw [codePoints_append (isStart_of_lt h), codePoints_ascii_cons h]

lemma exists_codePoint_of_mem {s : Bytes} {b : UInt8} (hb : b ∈ s) (h : b < 0x80) :
    ∃ r ∈ codePoints s, r.code = b.toNat := by
  obtain ⟨t, u, rfl⟩ := List.append_of_mem hb
  exact ⟨⟨b.toNat, [b]⟩, by simp [codePoints_append_ascii h], rfl⟩

lemma decode_take {c : UInt8} {s : Bytes} {k : Nat} (h : (decode (c :: s)).2 ≤ k) :
    decode ((c :: s).take k) = decode (c :: s) := by
  have hp := decode_size_pos c s
  match k, s with
  | 0, _ => omega
  | k + 1, [] => simp
  | 1, x :: s =>
    revert h
    simp only [List.take_succ_cons, List.take_zero, decode]
    grind
  | k + 2, [x] => simp
  | 2, x :: y :: s =>
    revert h
    simp only [List.take_succ_cons, List.take_zero, decode]
    grind
  | k + 3, [x, y] => simp
  | 3, x :: y :: z :: s =>
    revert h
    simp only [List.take_succ_cons, List.take_zero, decode]
    grind
  | k + 4, x :: y :: z :: s => simp [decode]

lemma codePoints_isSuffix {s : Bytes} {p q : List CodePoint} (h : codePoints s = p ++ q) :
    codePoints (q.flatMap (·.bytes)) = q := by
  induction p generalizing s with
  | nil =>
    rw [List.nil_append] at h
    rw [← h, flatMap_bytes_codePoints]
  | cons r p ih =>
    match s with
    | [] => simp at h
    | c :: s =>
      rw [codePoints_cons, List.cons_append, List.cons.injEq] at h
      exact ih h.2

lemma codePoints_of_decode {s t : Bytes} {code : Nat} (hs : s ≠ [])
    (h : decode (s ++ t) = (code, s.length)) : codePoints (s ++ t) = ⟨code, s⟩ :: codePoints t := by
  cases s with
  | nil => contradiction
  | cons c s =>
    rw [List.cons_append, codePoints_cons, ← List.cons_append, h, List.take_left, List.drop_left]

lemma codePoints_isPrefix {s : Bytes} {p q : List CodePoint} (h : codePoints s = p ++ q) :
    codePoints (p.flatMap (·.bytes)) = p := by
  induction p generalizing s with
  | nil => rfl
  | cons r p ih =>
    match s with
    | [] => simp at h
    | c :: s =>
      rw [codePoints_cons, List.cons_append, List.cons.injEq] at h
      obtain ⟨rfl, h⟩ := h
      have hp := decode_size_pos c s
      have hl : ((c :: s).take (decode (c :: s)).2).length = (decode (c :: s)).2 := by
        rw [List.length_take, Nat.min_eq_left (decode_size_le _)]
      have hrest : (c :: s).drop (decode (c :: s)).2 =
          p.flatMap (·.bytes) ++ q.flatMap (·.bytes) := by
        rw [← List.flatMap_append, ← h, flatMap_bytes_codePoints]
      have hcut : (c :: s).take (decode (c :: s)).2 ++ p.flatMap (·.bytes) =
          (c :: s).take ((decode (c :: s)).2 + (p.flatMap (·.bytes)).length) := by
        rw [List.take_add, hrest, List.take_left]
      have hne : (c :: s).take (decode (c :: s)).2 ≠ [] := by
        rw [← List.length_pos_iff, hl]
        exact hp
      rw [List.flatMap_cons, codePoints_of_decode hne, ih h]
      rw [hcut, decode_take (Nat.le_add_right _ _), hl]

lemma codePoints_isInfix {s : Bytes} {p m q : List CodePoint} (h : codePoints s = p ++ m ++ q) :
    codePoints (m.flatMap (·.bytes)) = m :=
  codePoints_isSuffix (codePoints_isPrefix h)

/-! ### Sequences that are broken off -/

lemma decode_of_not_isStart {b : UInt8} (hb : isStart b = false) (s : Bytes) : decode (b :: s) = (replacement, 1) := by
  have hcont : 0x80 ≤ b.toNat ∧ b.toNat ≤ 0xBF := by
    simpa [isStart, tail, between, UInt8.le_iff_toNat_le] using hb
  have hascii : ¬ b < 0x80 := by
    rw [UInt8.lt_iff_toNat_lt]
    exact Nat.not_lt.mpr hcont.1
  have hlead : ∀ lo hi : UInt8, 0xC0 ≤ lo.toNat → between lo hi b = false := by
    intro lo hi hlo
    simp only [between, Bool.and_eq_false_iff, decide_eq_false_iff_not, UInt8.le_iff_toNat_le]
    omega
  simp only [decode, if_neg hascii, hlead 0xC2 0xDF (by decide), hlead 0xE0 0xEF (by decide), hlead 0xF0 0xF4 (by decide),
    Bool.false_eq_true, if_false]

lemma isInvalid_of_not_isStart {s : Bytes} (hs : ∀ b ∈ s, isStart b = false) : ∀ r ∈ codePoints s, r.isInvalid = true := by
  induction s with
  | nil => simp
  | cons b s ih =>
    rw [List.forall_mem_cons] at hs
    rw [codePoints_cons, decode_of_not_isStart hs.1, List.forall_mem_cons]
    exact ⟨rfl, ih hs.2⟩

lemma decode_broken {c : UInt8} {s t : Bytes} (h : decode (c :: s ++ t) ≠ decode (c :: s)) :
    decode (c :: s) = (replacement, 1) ∧ ∀ b ∈ s, isStart b = false := by
  constructor
  · match s with
    | [] =>
      by_cases hc : c < 0x80
      · simp [decode, hc] at h
      · simp [decode, hc]
    | [x] =>
      revert h
      simp only [List.cons_append, List.nil_append, decode]
      grind
    | [x, y] =>
      revert h
      simp only [List.cons_append, List.nil_append, decode]
      grind
    | x :: y :: z :: s => simp [decode] at h
  · intro b hb
    by_contra hstart
    rw [Bool.not_eq_false] at hstart
    obtain ⟨u, v, rfl⟩ := List.append_of_mem hb
    have hcut : ∀ w, decode (c :: (u ++ b :: w)) = decode (c :: u) := decode_append hstart c u
    refine h ?_
    rw [List.cons_append, List.append_assoc, List.cons_append, hcut, hcut]

lemma mem_codePoints_append {r : CodePoint} {s : Bytes} (hr : r ∈ codePoints s) (hv : r.isInvalid = false) (t : Bytes) :
    r ∈ codePoints (s ++ t) := by
  induction s using codePoint_induction with
  | nil => simp at hr
  | cons c s ih =>
    by_cases hd : decode (c :: s ++ t) = decode (c :: s)
    · have hl : (decode (c :: s)).2 ≤ (c :: s).length := decode_size_le _
      rw [List.cons_append, codePoints_cons, ← List.cons_append, hd, List.take_append_of_le_length hl,
        List.drop_append_of_le_length hl]
      rw [codePoints_cons] at hr
      rcases List.mem_cons.mp hr with rfl | hr
      · exact List.mem_cons_self
      · exact List.mem_cons_of_mem _ (ih hr)
    · obtain ⟨hread, htails⟩ := decode_broken hd
      rw [codePoints_cons, hread] at hr
      have hinvalid : r.isInvalid = true := by
        rcases List.mem_cons.mp hr with rfl | hr
        · rfl
        · exact isInvalid_of_not_isStart htails r hr
      rw [hinvalid] at hv
      cases hv

end MarkdownTidy.Utf8
