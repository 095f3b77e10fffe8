import Mathlib.Data.List.DropRight
import Mathlib.Data.List.TakeWhile
import MarkdownTidy.Bytes

/-! Trimming texts at their ends and cutting them into lines. -/

namespace MarkdownTidy.Bytes

variable {p : UInt8 → Bool} {a b s t : Bytes}

lemma trimRight_eq_rdropWhile (p : UInt8 → Bool) (s : Bytes) : trimRight p s = s.rdropWhile p := by
  induction s with
  | nil => rfl
  | cons c s ih =>
    have hs : (c :: s).rdropWhile p =
        if s.rdropWhile p = [] then (if p c then [] else [c]) else c :: s.rdropWhile p := by
      rw [List.rdropWhile, List.reverse_cons, List.dropWhile_append, List.rdropWhile]
      by_cases h : (s.reverse.dropWhile p).isEmpty
      · by_cases hc : p c <;> simp [List.isEmpty_iff.mp h, hc]
      · have h' : (s.reverse.dropWhile p) ≠ [] := by simpa using h
        simp only [h, Bool.false_eq_true, if_false, List.reverse_eq_nil_iff, h', List.reverse_append]
        rfl
    rw [trimRight, ih, hs]
    cases hr : s.rdropWhile p with
    | nil => simp
    | cons x l => simp

lemma trimRight_append_of_all (h : ∀ c ∈ b, p c = true) : trimRight p (a ++ b) = trimRight p a := by
  simp only [trimRight_eq_rdropWhile, List.rdropWhile, List.reverse_append]
  rw [List.dropWhile_append_of_pos (by simpa using h)]

lemma trimRight_eq_self (h : ∀ c ∈ s.getLast?, p c = false) : trimRight p s = s := by
  rw [trimRight_eq_rdropWhile, List.rdropWhile_eq_self_iff]
  intro hs
  simpa using h (s.getLast hs) (List.getLast?_eq_some_getLast hs)

lemma exists_trimRight (p : UInt8 → Bool) (s : Bytes) : ∃ t, s = trimRight p s ++ t ∧ ∀ c ∈ t, p c = true := by
  refine ⟨s.rtakeWhile p, ?_, fun c hc => List.mem_rtakeWhile_imp hc⟩
  rw [trimRight_eq_rdropWhile, List.rdropWhile_append_rtakeWhile]

lemma getLast?_trimRight {c : UInt8} (h : (trimRight p s).getLast? = some c) : p c = false := by
  rw [trimRight_eq_rdropWhile] at h
  have hne : s.rdropWhile p ≠ [] := fun hnil => by rw [hnil] at h; cases h
  have hlast := List.rdropWhile_last_not p s hne
  rw [List.getLast?_eq_some_getLast hne, Option.some.injEq] at h
  rwa [h, Bool.not_eq_true] at hlast

lemma trimRight_append_of_ne_nil (h : trimRight p b ≠ []) (a : Bytes) : trimRight p (a ++ b) = a ++ trimRight p b := by
  obtain ⟨t, hb, ht⟩ := exists_trimRight p b
  have hself : trimRight p (a ++ trimRight p b) = a ++ trimRight p b := by
    refine trimRight_eq_self fun c hc => getLast?_trimRight (s := b) ?_
    rwa [List.getLast?_append_of_ne_nil _ h] at hc
  conv_lhs => rw [hb, ← List.append_assoc]
  rw [trimRight_append_of_all ht, hself]

lemma length_trimRight_concat_le {c : UInt8} (h : p c = true) : (trimRight p (s ++ [c])).length ≤ s.length := by
  rw [trimRight_append_of_all (List.forall_mem_singleton.mpr h), trimRight_eq_rdropWhile]
  exact (List.rdropWhile_prefix _ _).length_le

lemma trimLeft_append_of_all (h : ∀ c ∈ a, p c = true) : trimLeft p (a ++ b) = trimLeft p b :=
  List.dropWhile_append_of_pos h

lemma trimLeft_eq_self (h : ∀ c ∈ s.head?, p c = false) : trimLeft p s = s := by
  cases s with
  | nil => rfl
  | cons c s => simp [trimLeft, h c rfl]

lemma trim_append (ha : ∀ c ∈ a, p c = true) (hb : ∀ c ∈ b, p c = true)
    (hf : ∀ c ∈ s.head?, p c = false) (hl : ∀ c ∈ s.getLast?, p c = false) :
    trim p (a ++ s ++ b) = s := by
  rw [trim, List.append_assoc, trimLeft_append_of_all ha]
  cases s with
  | nil =>
    have h : trimLeft p b = [] := List.dropWhile_eq_nil_iff.mpr hb
    simp [h, trimRight]
  | cons c s =>
    rw [trimLeft_eq_self (by simpa using hf), trimRight_append_of_all hb, trimRight_eq_self hl]

lemma spaces_add (a b : Nat) : spaces (a + b) = spaces a ++ spaces b :=
  List.replicate_append_replicate.symm

lemma spaces_succ (n : Nat) : spaces (n + 1) = byte ' ' :: spaces n := rfl

lemma eq_of_mem_spaces {n : Nat} {c : UInt8} (h : c ∈ spaces n) : c = byte ' ' :=
  List.eq_of_mem_replicate h

lemma isSpace_of_mem_spaces {n : Nat} {c : UInt8} (h : c ∈ spaces n) : isSpace c = true := by
  rw [eq_of_mem_spaces h]
  rfl

@[simp] lemma length_spaces (n : Nat) : (spaces n).length = n := List.length_replicate

lemma drop_length_takeWhile (p : UInt8 → Bool) (s : Bytes) :
    s.drop (s.takeWhile p).length = s.dropWhile p := by
  induction s with
  | nil => rfl
  | cons c s ih => by_cases h : p c = true <;> simp [h, ih]

lemma length_run {n : Nat} {c : UInt8} (h : s.head? ≠ some c) :
    ((List.replicate n c ++ s).takeWhile (· == c)).length = n := by
  have hs : s.takeWhile (· == c) = [] := by
    cases s with
    | nil => rfl
    | cons d s => simpa using h
  rw [List.takeWhile_append_of_pos (by simp), hs]
  simp

@[simp] lemma drop_run {n : Nat} {c : UInt8} : (List.replicate n c ++ s).drop n = s := by
  rw [List.drop_append_of_le_length (by simp)]
  simp

@[simp] lemma drop_spaces {n : Nat} : (spaces n ++ s).drop n = s := drop_run

/-! ### Lines -/

def unlines (ls : List Bytes) : Bytes := ls.flatMap (· ++ [newline])

@[simp] lemma unlines_nil : unlines [] = [] := rfl

@[simp] lemma unlines_cons (l : Bytes) (ls : List Bytes) :
    unlines (l :: ls) = l ++ newline :: unlines ls := by simp [unlines]

lemma unlines_append (ls ms : List Bytes) : unlines (ls ++ ms) = unlines ls ++ unlines ms :=
  List.flatMap_append

lemma join_cons {sep p : Bytes} {ps : List Bytes} (h : ps ≠ []) : join sep (p :: ps) = p ++ sep ++ join sep ps :=
  List.intercalate_cons_of_ne_nil h

lemma join_concat {sep : Bytes} {ps : List Bytes} (h : ps ≠ []) (p : Bytes) :
    join sep (ps ++ [p]) = join sep ps ++ sep ++ p := by
  induction ps with
  | nil => contradiction
  | cons q ps ih =>
    cases ps with
    | nil => simp [join]
    | cons r ps =>
      have hrest : r :: ps ++ [p] ≠ [] := List.cons_ne_nil _ _
      rw [List.cons_append, join_cons hrest, ih (List.cons_ne_nil _ _), join_cons (List.cons_ne_nil r ps)]
      simp only [List.append_assoc]

lemma mem_join {sep : Bytes} {ps : List Bytes} {b : UInt8} (h : b ∈ join sep ps) : b ∈ sep ∨ ∃ p ∈ ps, b ∈ p := by
  induction ps with
  | nil => cases h
  | cons p ps ih =>
    cases ps with
    | nil => exact .inr ⟨p, List.mem_cons_self, by simpa [join] using h⟩
    | cons q ps =>
      rw [join_cons (List.cons_ne_nil q ps), List.mem_append, List.mem_append] at h
      rcases h with (h | h) | h
      · exact .inr ⟨p, List.mem_cons_self, h⟩
      · exact .inl h
      · refine (ih h).imp_right fun hin => ?_
        obtain ⟨r, hr, hb⟩ := hin
        exact ⟨r, List.mem_cons_of_mem _ hr, hb⟩

lemma unlines_eq_join {ls : List Bytes} (h : ls ≠ []) : unlines ls = join [newline] ls ++ [newline] := by
  induction ls with
  | nil => contradiction
  | cons l ls ih =>
    cases ls with
    | nil => simp [join]
    | cons m ls =>
      have hj : join [newline] (l :: m :: ls) = l ++ [newline] ++ join [newline] (m :: ls) := join_cons (by simp)
      rw [unlines_cons, ih (by simp), hj]
      simp

lemma flatten_lines (s : Bytes) : (lines s).flatten = s := by
  induction s with
  | nil => rfl
  | cons c s ih =>
    rw [lines]
    split
    · rw [List.flatten_cons, ih]
      rfl
    · split
      · rename_i hnil
        rw [hnil] at ih
        rw [← ih]
        rfl
      · rename_i l ls hcons
        rw [hcons] at ih
        rw [← ih]
        rfl

lemma lines_append_newline {l : Bytes} (h : newline ∉ l) (s : Bytes) :
    lines (l ++ newline :: s) = (l ++ [newline]) :: lines s := by
  induction l with
  | nil => simp [lines]
  | cons c l ih =>
    rw [List.mem_cons, not_or] at h
    simp only [List.cons_append, lines, beq_iff_eq, Ne.symm h.1, if_false, ih h.2]

lemma lines_unlines_append {ls : List Bytes} (h : ∀ l ∈ ls, newline ∉ l) (s : Bytes) :
    lines (unlines ls ++ s) = ls.map (· ++ [newline]) ++ lines s := by
  induction ls with
  | nil => rfl
  | cons l ls ih =>
    rw [List.forall_mem_cons] at h
    rw [unlines_cons, List.append_assoc, List.cons_append, lines_append_newline h.1, ih h.2,
      List.map_cons, List.cons_append]

lemma lines_unlines {ls : List Bytes} (h : ∀ l ∈ ls, newline ∉ l) :
    lines (unlines ls) = ls.map (· ++ [newline]) := by
  simpa [lines] using lines_unlines_append h []

lemma unlines_injective {ls ms : List Bytes} (hl : ∀ l ∈ ls, newline ∉ l)
    (hm : ∀ l ∈ ms, newline ∉ l) (h : unlines ls = unlines ms) : ls = ms := by
  have hh := congrArg lines h
  rw [lines_unlines hl, lines_unlines hm] at hh
  exact List.map_injective_iff.mpr (fun a b h => List.append_cancel_right h) hh

lemma split_append_sep {sep : UInt8} {l : Bytes} (h : sep ∉ l) (s : Bytes) : split sep (l ++ sep :: s) = l :: split sep s := by
  induction l with
  | nil => simp [split]
  | cons c l ih =>
    rw [List.mem_cons, not_or] at h
    simp only [List.cons_append, split, beq_iff_eq, Ne.symm h.1, if_false, ih h.2]

lemma split_append_newline {l : Bytes} (h : newline ∉ l) (s : Bytes) :
    split newline (l ++ newline :: s) = l :: split newline s :=
  split_append_sep h s

lemma line_unique {a b x y : Bytes} (ha : newline ∉ a) (hb : newline ∉ b) (h : a ++ newline :: x = b ++ newline :: y) :
    a = b ∧ x = y := by
  have hsplit := congrArg (split newline) h
  rw [split_append_newline ha, split_append_newline hb] at hsplit
  obtain rfl := (List.cons.inj hsplit).1
  exact ⟨rfl, (List.cons.inj (List.append_cancel_left h)).2⟩

lemma split_unlines {ls : List Bytes} (h : ∀ l ∈ ls, newline ∉ l) :
    split newline (unlines ls) = ls ++ [[]] := by
  induction ls with
  | nil => rfl
  | cons l ls ih =>
    rw [List.forall_mem_cons] at h
    rw [unlines_cons, split_append_newline h.1, ih h.2, List.cons_append]

lemma exists_unlines_append (s : Bytes) :
    ∃ ls t, (∀ l ∈ ls, newline ∉ l) ∧ newline ∉ t ∧ s = unlines ls ++ t := by
  induction s with
  | nil => exact ⟨[], [], by simp⟩
  | cons c s ih =>
    obtain ⟨ls, t, hl, ht, rfl⟩ := ih
    by_cases hc : c = newline
    · subst hc
      exact ⟨[] :: ls, t, by simpa using hl, ht, by simp⟩
    · cases ls with
      | nil => exact ⟨[], c :: t, by simp, by simpa [Ne.symm hc] using ht, rfl⟩
      | cons l ls =>
        rw [List.forall_mem_cons] at hl
        refine ⟨(c :: l) :: ls, t, ?_, ht, by simp⟩
        exact List.forall_mem_cons.mpr ⟨by simpa [Ne.symm hc] using hl.1, hl.2⟩

lemma exists_line (s : Bytes) : ∃ l, newline ∉ l ∧ (s = l ∨ ∃ t, s = l ++ newline :: t) := by
  obtain ⟨ls, t, hls, ht, rfl⟩ := exists_unlines_append s
  cases ls with
  | nil => exact ⟨t, ht, .inl rfl⟩
  | cons l ls => exact ⟨l, hls l List.mem_cons_self, .inr ⟨unlines ls ++ t, by simp⟩⟩

lemma exists_unlines (h : s.getLast? = some newline) :
    ∃ ls, ls ≠ [] ∧ (∀ l ∈ ls, newline ∉ l) ∧ s = unlines ls := by
  obtain ⟨ls, t, hl, ht, rfl⟩ := exists_unlines_append s
  cases t with
  | nil =>
    rw [List.append_nil] at h ⊢
    refine ⟨ls, ?_, hl, rfl⟩
    rintro rfl
    simp at h
  | cons c t =>
    rw [List.getLast?_append_of_ne_nil _ (by simp)] at h
    exact absurd (List.mem_of_getLast? h) ht

lemma lines_append (h : s = [] ∨ s.getLast? = some newline) (t : Bytes) :
    lines (s ++ t) = lines s ++ lines t := by
  rcases h with rfl | h
  · rfl
  · obtain ⟨ls, -, hl, rfl⟩ := exists_unlines h
    rw [lines_unlines_append hl, lines_unlines hl]

lemma lines_of_notMem (h : newline ∉ t) (ht : t ≠ []) : lines t = [t] := by
  induction t with
  | nil => contradiction
  | cons c t ih =>
    rw [List.mem_cons, not_or] at h
    cases t with
    | nil => simp [lines, Ne.symm h.1]
    | cons d t => simp only [lines.eq_2 c, beq_iff_eq, Ne.symm h.1, if_false, ih h.2 (by simp)]

lemma lines_eq_cons {l : Bytes} {ls : List Bytes} (h : lines s = l :: ls) :
    s = l ++ ls.flatten ∧ lines ls.flatten = ls ∧
      ((∃ m, newline ∉ m ∧ l = m ++ [newline]) ∨ newline ∉ l ∧ l ≠ [] ∧ ls = []) := by
  obtain ⟨ms, t, hm, ht, rfl⟩ := exists_unlines_append s
  cases ms with
  | nil =>
    have hne : t ≠ [] := by
      rintro rfl
      cases h
    rw [unlines_nil, List.nil_append, lines_of_notMem ht hne] at h
    cases h
    exact ⟨by simp, rfl, .inr ⟨ht, hne, rfl⟩⟩
  | cons m ms =>
    rw [List.forall_mem_cons] at hm
    rw [unlines_cons, List.append_assoc, List.cons_append, lines_append_newline hm.1] at h
    cases h
    rw [flatten_lines]
    exact ⟨by simp, rfl, .inl ⟨m, hm.1, rfl⟩⟩

lemma newline_notMem_dropLast_of_lines {l : Bytes} (h : l ∈ lines s) : newline ∉ l.dropLast := by
  generalize hls : lines s = ls at h
  induction ls generalizing s with
  | nil => cases h
  | cons m ls ih =>
    obtain ⟨-, hrest, hm⟩ := lines_eq_cons hls
    rcases List.mem_cons.mp h with rfl | h
    · rcases hm with ⟨k, hk, rfl⟩ | ⟨hl, -⟩
      · rwa [List.dropLast_concat]
      · exact fun hmem => hl (List.dropLast_subset _ hmem)
    · exact ih hrest h

lemma lines_eq_append {ls ms : List Bytes} (h : lines s = ls ++ ms) :
    lines ls.flatten = ls ∧ lines ms.flatten = ms ∧
      (ms ≠ [] → ls.flatten = [] ∨ ls.flatten.getLast? = some newline) := by
  induction ls generalizing s with
  | nil =>
    rw [List.nil_append] at h
    rw [← h, flatten_lines]
    exact ⟨rfl, rfl, fun _ => .inl rfl⟩
  | cons l ls ih =>
    obtain ⟨-, hrest, ⟨m, hm, rfl⟩ | ⟨hl, hne, hnil⟩⟩ := lines_eq_cons h
    · obtain ⟨hls, hms, hend⟩ := ih hrest
      have hcut : ((m ++ [newline]) :: ls).flatten = m ++ newline :: ls.flatten := by simp
      refine ⟨by rw [hcut, lines_append_newline hm, hls], hms, fun hne => .inr ?_⟩
      rw [hcut]
      rcases hend hne with hnil | hlast
      · simp [hnil]
      · simp [List.getLast?_append, List.getLast?_cons, hlast]
    · obtain ⟨rfl, rfl⟩ := List.append_eq_nil_iff.mp hnil
      simp [lines_of_notMem hl hne, lines]

/-! ### The first line -/

def firstLine (s : Bytes) : Bytes := (split newline s).headD []

lemma split_ne_nil (s : Bytes) : split newline s ≠ [] := by
  cases s with
  | nil => simp [split]
  | cons c s =>
    rw [split]
    split
    · simp
    · split <;> simp

lemma firstLine_cons (c : UInt8) (s : Bytes) :
    firstLine (c :: s) = if c = newline then [] else c :: firstLine s := by
  obtain ⟨l, ls, h⟩ := List.exists_cons_of_ne_nil (split_ne_nil s)
  simp only [firstLine, split, h, beq_iff_eq]
  split <;> rfl

lemma firstLine_prefix (s : Bytes) : firstLine s <+: s := by
  induction s with
  | nil => exact List.prefix_refl _
  | cons c s ih =>
    rw [firstLine_cons]
    split
    · exact List.nil_prefix
    · exact List.cons_prefix_cons.mpr ⟨rfl, ih⟩

lemma split_append_of_notMem (h : newline ∉ a) (s : Bytes) :
    split newline (a ++ s) = (a ++ firstLine s) :: (split newline s).tail := by
  obtain ⟨l, ls, hs⟩ := List.exists_cons_of_ne_nil (split_ne_nil s)
  induction a with
  | nil => simp [firstLine, hs]
  | cons c a ih =>
    rw [List.mem_cons, not_or] at h
    have hc : (c == newline) = false := by simpa using Ne.symm h.1
    simp [split, ih h.2, hc]

lemma firstLine_append (h : newline ∉ a) (s : Bytes) : firstLine (a ++ s) = a ++ firstLine s := by
  rw [firstLine, split_append_of_notMem h, List.headD_cons]

lemma split_of_notMem {sep : UInt8} (h : sep ∉ a) : split sep a = [a] := by
  induction a with
  | nil => rfl
  | cons c a ih =>
    rw [List.mem_cons, not_or] at h
    have hc : (c == sep) = false := by simpa using Ne.symm h.1
    simp [split, ih h.2, hc]

lemma sep_notMem_of_mem_split (sep : UInt8) (s : Bytes) : ∀ p ∈ split sep s, sep ∉ p := by
  induction s with
  | nil => simp [split]
  | cons c s ih =>
    rw [split]
    split
    · exact List.forall_mem_cons.mpr ⟨List.not_mem_nil, ih⟩
    · rename_i hc
      have hc : sep ≠ c := fun h => hc (by simp [h])
      split
      · simpa using hc
      · rename_i p ps hsplit
        rw [hsplit, List.forall_mem_cons] at ih
        refine List.forall_mem_cons.mpr ⟨?_, ih.2⟩
        rw [List.mem_cons, not_or]
        exact ⟨hc, ih.1⟩

lemma split_join {sep : UInt8} {ls : List Bytes} (hne : ls ≠ []) (h : ∀ l ∈ ls, sep ∉ l) : split sep (join [sep] ls) = ls := by
  induction ls with
  | nil => contradiction
  | cons l ls ih =>
    rw [List.forall_mem_cons] at h
    cases ls with
    | nil => simpa [join] using split_of_notMem h.1
    | cons m ls =>
      rw [join_cons (by simp), List.append_assoc, List.singleton_append, split_append_sep h.1, ih (by simp) h.2]

lemma exists_split (s : Bytes) :
    ∃ ls t, split newline s = ls ++ [t] ∧ s = unlines ls ++ t ∧ ∀ l ∈ ls ++ [t], newline ∉ l := by
  obtain ⟨ls, t, hls, ht, rfl⟩ := exists_unlines_append s
  refine ⟨ls, t, ?_, rfl, ?_⟩
  · induction ls with
    | nil => exact split_of_notMem ht
    | cons l ls ih =>
      rw [List.forall_mem_cons] at hls
      rw [unlines_cons, List.append_assoc, List.cons_append, split_append_newline hls.1, ih hls.2, List.cons_append]
  · intro l hl
    rcases List.mem_append.mp hl with hl | hl
    · exact hls l hl
    · rwa [List.mem_singleton.mp hl]

lemma firstLine_append_newline (s t : Bytes) : firstLine (s ++ newline :: t) = firstLine s := by
  induction s with
  | nil => rw [List.nil_append, firstLine_cons, if_pos rfl]; rfl
  | cons c s ih => rw [List.cons_append, firstLine_cons, firstLine_cons, ih]

end MarkdownTidy.Bytes
