import Mathlib.Data.List.Basic
import MarkdownTidy.Bytes

/-! Searching a text that is put together from pieces. A separator that does not occur in the needle
keeps every occurrence on one of its sides. -/

namespace MarkdownTidy.Bytes

variable {needle s t : Bytes} {c : UInt8}

lemma prefix_of_prefix_append_cons (hc : c ∉ needle) (h : needle <+: s ++ c :: t) : needle <+: s := by
  induction s generalizing needle with
  | nil =>
    cases needle with
    | nil => exact List.nil_prefix
    | cons d needle =>
      rw [List.nil_append, List.cons_prefix_cons] at h
      exact absurd (h.1 ▸ List.mem_cons_self) hc
  | cons d s ih =>
    cases needle with
    | nil => exact List.nil_prefix
    | cons e needle =>
      rw [List.cons_append, List.cons_prefix_cons] at h
      rw [List.cons_prefix_cons]
      exact ⟨h.1, ih (fun hm => hc (List.mem_cons_of_mem _ hm)) h.2⟩

lemma infix_append_cons_iff (hc : c ∉ needle) :
    needle <:+: s ++ c :: t ↔ needle <:+: s ∨ needle <:+: t := by
  constructor
  · intro h
    induction s with
    | nil =>
      rw [List.nil_append, List.infix_cons_iff] at h
      rcases h with h | h
      · exact Or.inl (prefix_of_prefix_append_cons (s := []) hc h).isInfix
      · exact Or.inr h
    | cons d s ih =>
      rw [List.cons_append, List.infix_cons_iff] at h
      rcases h with h | h
      · exact Or.inl (prefix_of_prefix_append_cons (s := d :: s) hc h).isInfix
      · rcases ih h with hs | ht
        · exact Or.inl (List.infix_cons_iff.mpr (Or.inr hs))
        · exact Or.inr ht
  · rintro (h | h)
    · exact h.trans (List.infix_append' [] s _)
    · exact h.trans ((List.suffix_cons c t).trans (List.suffix_append s _)).isInfix

lemma infix_append_iff_of_disjoint (h : ∀ c ∈ s, c ∉ needle) (hn : needle ≠ []) :
    needle <:+: s ++ t ↔ needle <:+: t := by
  induction s with
  | nil => rfl
  | cons d s ih =>
    have hd : d ∉ needle := h d List.mem_cons_self
    have hi := ih fun c hc => h c (List.mem_cons_of_mem _ hc)
    rw [← hi]
    rw [show d :: s ++ t = [] ++ d :: (s ++ t) from rfl, infix_append_cons_iff hd]
    simp [hn]

lemma find?_append_cons (hc : c ∉ needle) (h : ¬ needle <:+: s) :
    find? needle (s ++ c :: t) = (find? needle t).map (s.length + 1 + ·) := by
  induction s with
  | nil =>
    have hp : ¬ needle <+: c :: t := fun hp => h (prefix_of_prefix_append_cons (s := []) hc hp).isInfix
    rw [← List.isPrefixOf_iff_prefix, Bool.not_eq_true] at hp
    simp [find?, hp, Nat.add_comm]
  | cons d s ih =>
    have hp : ¬ needle <+: d :: (s ++ c :: t) := fun hp =>
      h (prefix_of_prefix_append_cons (s := d :: s) hc hp).isInfix
    have hs : ¬ needle <:+: s := fun hs => h (List.infix_cons_iff.mpr (Or.inr hs))
    rw [← List.isPrefixOf_iff_prefix, Bool.not_eq_true] at hp
    rw [List.cons_append, find?, hp, ih hs]
    cases find? needle t with
    | none => rfl
    | some k => simp; omega

lemma find?_self_append (hn : needle ≠ []) : find? needle (needle ++ t) = some 0 := by
  cases needle with
  | nil => contradiction
  | cons d needle =>
    have hp : (d :: needle).isPrefixOf (d :: (needle ++ t)) = true := by
      rw [List.isPrefixOf_iff_prefix]
      exact List.prefix_append (d :: needle) t
    rw [List.cons_append, find?, if_pos hp]

lemma eq_append_of_find? {k : Nat} (h : find? needle s = some k) :
    ∃ t, s = s.take k ++ needle ++ t := by
  induction s generalizing k with
  | nil =>
    cases needle with
    | nil => exact ⟨[], by simp⟩
    | cons d needle => simp [find?] at h
  | cons d s ih =>
    rw [find?] at h
    split at h
    · rename_i hp
      obtain ⟨t, ht⟩ := List.isPrefixOf_iff_prefix.mp hp
      obtain rfl : 0 = k := by simpa using h
      exact ⟨t, by simp [ht]⟩
    · obtain ⟨j, hj, rfl⟩ := Option.map_eq_some_iff.mp h
      obtain ⟨t, ht⟩ := ih hj
      exact ⟨t, by simpa using ht⟩

lemma not_infix_take_of_find? {k : Nat} (hn : needle ≠ []) (h : find? needle s = some k) :
    ¬ needle <:+: s.take k := by
  induction s generalizing k with
  | nil => simpa using hn
  | cons d s ih =>
    rw [find?] at h
    split at h
    · obtain rfl : 0 = k := by simpa using h
      simpa using hn
    · rename_i hp
      obtain ⟨j, hj, rfl⟩ := Option.map_eq_some_iff.mp h
      rw [List.isPrefixOf_iff_prefix] at hp
      rw [List.take_succ_cons, List.infix_cons_iff, ← List.take_succ_cons]
      rintro (hq | hq)
      · exact hp (hq.trans (List.take_prefix _ _))
      · exact ih hj hq

lemma find?_of_prefix {u : Bytes} (h : u ++ needle <+: s) : ∃ k, find? needle s = some k ∧ k ≤ u.length := by
  induction u generalizing s with
  | nil =>
    cases s with
    | nil =>
      obtain rfl : needle = [] := List.prefix_nil.mp h
      exact ⟨0, rfl, Nat.le_refl _⟩
    | cons c s =>
      rw [List.nil_append, ← List.isPrefixOf_iff_prefix] at h
      exact ⟨0, by rw [find?, if_pos h], Nat.le_refl _⟩
  | cons d u ih =>
    cases s with
    | nil => simp at h
    | cons c s =>
      rw [List.cons_append, List.cons_prefix_cons] at h
      obtain ⟨k, hk, hle⟩ := ih h.2
      rw [find?]
      split
      · exact ⟨0, rfl, Nat.zero_le _⟩
      · exact ⟨k + 1, by rw [hk]; rfl, Nat.succ_le_succ hle⟩

lemma find?_le_length {k : Nat} (h : find? needle s = some k) : k ≤ s.length := by
  induction s generalizing k with
  | nil =>
    cases needle <;> simp_all [find?]
  | cons c s ih =>
    rw [find?] at h
    split at h
    · obtain rfl := Option.some.inj h
      exact Nat.zero_le _
    · obtain ⟨j, hj, rfl⟩ := Option.map_eq_some_iff.mp h
      exact Nat.succ_le_succ (ih hj)

lemma find?_eq_some_iff {u : Bytes} :
    find? needle s = some u.length ∧ u <+: s ↔
      u ++ needle <+: s ∧ ∀ v, v ++ needle <+: s → u.length ≤ v.length := by
  constructor
  · rintro ⟨hfind, hu⟩
    constructor
    · obtain ⟨t, ht⟩ := eq_append_of_find? hfind
      rw [← List.prefix_iff_eq_take.mp hu] at ht
      exact ⟨t, ht.symm⟩
    · intro v hv
      obtain ⟨k, hk, hle⟩ := find?_of_prefix hv
      rw [hfind] at hk
      exact Nat.le_trans (Nat.le_of_eq (Option.some.inj hk)) hle
  · rintro ⟨hu, hmin⟩
    obtain ⟨k, hk, hle⟩ := find?_of_prefix hu
    obtain ⟨t, ht⟩ := eq_append_of_find? hk
    have hge := hmin (s.take k) ⟨t, ht.symm⟩
    rw [List.length_take_of_le (find?_le_length hk)] at hge
    exact ⟨by rw [hk, Nat.le_antisymm hle hge], (List.prefix_append u needle).trans hu⟩

lemma exists_line_of_flatten {lines : List Bytes} {u : Bytes} (hn : needle ≠ [])
    (hnl : newline ∉ needle) (hl : ∀ l ∈ lines.dropLast, ∀ b ∈ l.getLast?, b = newline)
    (h : lines.flatten = u ++ (needle ++ t)) :
    ∃ pre l post x y, lines = pre ++ l :: post ∧ l = x ++ (needle ++ y) ∧ u = pre.flatten ++ x ∧
      (post ≠ [] → y ≠ []) := by
  induction lines generalizing u with
  | nil => simp [hn] at h
  | cons l lines ih =>
    rw [List.flatten_cons] at h
    by_cases hlast : lines = []
    · subst hlast
      exact ⟨[], l, [], u, t, rfl, by simpa using h, rfl, fun hne => absurd rfl hne⟩
    · rw [List.dropLast_cons_of_ne_nil hlast] at hl
      have hend := hl l List.mem_cons_self
      rcases List.append_eq_append_iff.mp h with ⟨u', rfl, hrest⟩ | ⟨v, rfl, hrest⟩
      · obtain ⟨pre, l', post, x, y, rfl, hl', rfl, hy⟩ :=
          ih (fun k hk => hl k (List.mem_cons_of_mem _ hk)) hrest
        exact ⟨l :: pre, l', post, x, y, rfl, hl', by simp, hy⟩
      · rcases List.eq_nil_or_concat' v with rfl | ⟨w, b, rfl⟩
        · obtain ⟨pre, l', post, x, y, rfl, hl', hu, hy⟩ :=
            ih (fun k hk => hl k (List.mem_cons_of_mem _ hk)) (u := []) hrest.symm
          refine ⟨(u ++ []) :: pre, l', post, x, y, rfl, hl', ?_, hy⟩
          simp [List.append_assoc, ← hu]
        · -- The line ends inside or behind the needle, and a line end is no part of it.
          have hb : b ∉ needle := by
            rwa [hend b (by simp)]
          rcases List.append_eq_append_iff.mp hrest with ⟨y, hw, -⟩ | ⟨y, rfl, -⟩
          · refine ⟨[], _, lines, u, y, rfl, by rw [hw], rfl, fun _ hy => hb ?_⟩
            rw [hy, List.append_nil] at hw
            exact hw ▸ List.mem_append_right w (List.mem_singleton_self b)
          · exact absurd (List.mem_append_left y (List.mem_append_right w (List.mem_singleton_self b))) hb

/-! ### Searching for a byte -/

lemma indexOf?_append (h : c ∉ s) (t : Bytes) : indexOf? c (s ++ c :: t) = some s.length := by
  induction s with
  | nil => simp [indexOf?]
  | cons d s ih =>
    rw [List.mem_cons, not_or] at h
    rw [List.cons_append, indexOf?, if_neg (by simpa using Ne.symm h.1), ih h.2]
    rfl

lemma lastIndexOf?_eq_none_iff : lastIndexOf? c s = none ↔ c ∉ s := by
  induction s with
  | nil => simp [lastIndexOf?]
  | cons d s ih =>
    rw [lastIndexOf?, List.mem_cons, not_or, ← ih]
    cases lastIndexOf? c s with
    | some i => simp
    | none => simp [eq_comm (a := c)]

lemma lastIndexOf?_append (h : c ∉ t) (s : Bytes) : lastIndexOf? c (s ++ c :: t) = some s.length := by
  induction s with
  | nil => simp [lastIndexOf?, lastIndexOf?_eq_none_iff.mpr h]
  | cons d s ih => rw [List.cons_append, lastIndexOf?, ih]; rfl

lemma exists_of_lastIndexOf? {i : Nat} (h : lastIndexOf? c s = some i) :
    ∃ t u, s = t ++ c :: u ∧ t.length = i ∧ c ∉ u := by
  have hmem : c ∈ s := by
    by_contra hn
    rw [lastIndexOf?_eq_none_iff.mpr hn] at h
    cases h
  obtain ⟨u, t, hs, hu⟩ := List.eq_append_cons_of_mem (List.mem_reverse.mpr hmem)
  have hs' : s = t.reverse ++ c :: u.reverse := by
    rw [← List.reverse_reverse s, hs]
    simp
  have hu' : c ∉ u.reverse := by rwa [List.mem_reverse]
  rw [hs', lastIndexOf?_append hu'] at h
  exact ⟨t.reverse, u.reverse, hs', Option.some.inj h, hu'⟩

end MarkdownTidy.Bytes
