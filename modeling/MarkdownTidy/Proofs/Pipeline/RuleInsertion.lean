import MarkdownTidy.Pipeline.RuleList
import Mathlib.Data.List.Nodup

/-! Inserting into a named list of rules: when it is refused, and what becomes of the list. -/

namespace MarkdownTidy.RuleList

variable {l l' : RuleList} {name before triggers : Bytes} {priority : Int}

def Crowded (l : RuleList) (before : Bytes) : Prop :=
  ∃ (l₁ : RuleList) (r b : RuleEntry) (l₂ : RuleList),
    l = l₁ ++ r :: b :: l₂ ∧ b.name = before ∧ b.priority - r.priority < 2

lemma names_append (l l' : RuleList) : names (l ++ l') = l.names ++ l'.names := List.map_append

lemma exists_split (h : before ∈ l.names) :
    ∃ (l₁ : RuleList) (r : RuleEntry) (l₂ : RuleList),
      l = l₁ ++ r :: l₂ ∧ r.name = before ∧ before ∉ l₁.names := by
  induction l with
  | nil => cases h
  | cons x l ih =>
    by_cases hx : x.name = before
    · exact ⟨[], x, l, rfl, hx, List.not_mem_nil⟩
    · have hl : before ∈ names l := (List.mem_cons.mp h).resolve_left (Ne.symm hx)
      obtain ⟨l₁, r, l₂, rfl, hr, hl₁⟩ := ih hl
      exact ⟨x :: l₁, r, l₂, rfl, hr, List.not_mem_cons_of_ne_of_not_mem (Ne.symm hx) hl₁⟩

def lowerEnd (low : Option Int) (l : RuleList) (high : Int) : Int :=
  ((l.getLast?.map (·.priority)).or low).getD (high - spacing)

lemma lowerEnd_cons (low : Option Int) (x : RuleEntry) (l : RuleList) (high : Int) :
    lowerEnd low (x :: l) high = lowerEnd (some x.priority) l high := by
  simp only [lowerEnd, List.getLast?_cons]
  cases l.getLast? <;> rfl

lemma halfway_refused_iff (low high : Int) :
    (decide (low + Int.tdiv (high - low) 2 ≤ low) || decide (low + Int.tdiv (high - low) 2 ≥ high)) =
      true ↔ high - low < 2 := by
  rw [Bool.or_eq_true, decide_eq_true_iff, decide_eq_true_iff]
  rcases Int.le_total 0 (high - low) with h | h
  · rw [Int.tdiv_eq_ediv_of_nonneg h]
    omega
  · have hneg : Int.tdiv (high - low) 2 = -((low - high) / 2) := by
      rw [← Int.tdiv_eq_ediv_of_nonneg (by omega), ← Int.neg_tdiv]
      congr 1
      omega
    omega

lemma insertBefore_cons (low : Option Int) {x : RuleEntry} (hx : x.name ≠ before) :
    insertBefore name before triggers low (x :: l) =
      (insertBefore name before triggers (some x.priority) l).map fun r => (x :: r.1, r.2) := by
  rw [insertBefore, if_neg (by simpa using hx)]
  cases insertBefore name before triggers (some x.priority) l <;> rfl

lemma insertBefore_of_notMem (low : Option Int) (h : before ∉ l.names) :
    insertBefore name before triggers low l = .error (.unknown before) := by
  induction l generalizing low with
  | nil => rfl
  | cons x l ih =>
    obtain ⟨hx, hl⟩ := List.ne_and_not_mem_of_not_mem_cons h
    rw [insertBefore_cons low hx.symm, ih _ hl]
    rfl

lemma insertBefore_append (low : Option Int) {l₁ l₂ : RuleList} {r : RuleEntry} (hr : r.name = before)
    (hl : before ∉ l₁.names) :
    insertBefore name before triggers low (l₁ ++ r :: l₂) =
      let low := lowerEnd low l₁ r.priority
      let priority := low + Int.tdiv (r.priority - low) 2
      if r.priority - low < 2 then .error (.noPriority low r.priority name)
      else .ok (l₁ ++ ⟨name, priority, triggers⟩ :: r :: l₂, priority) := by
  induction l₁ generalizing low with
  | nil =>
    rw [List.nil_append, insertBefore, if_pos (beq_iff_eq.mpr hr)]
    simp only [lowerEnd, List.getLast?_nil, Option.map_none, Option.none_or, halfway_refused_iff]
    rfl
  | cons x l₁ ih =>
    obtain ⟨hx, hl⟩ := List.ne_and_not_mem_of_not_mem_cons hl
    rw [List.cons_append, insertBefore_cons low hx.symm, ih _ hl, lowerEnd_cons]
    simp only
    split <;> rfl

lemma lowerEnd_concat (low : Option Int) (l : RuleList) (q : RuleEntry) (high : Int) :
    lowerEnd low (l ++ [q]) high = q.priority := by
  simp [lowerEnd]

lemma split_unique {l₁ l₂ k₁ k₂ : RuleList} {r b : RuleEntry} (hl : (names (l₁ ++ r :: l₂)).Nodup)
    (he : l₁ ++ r :: l₂ = k₁ ++ b :: k₂) (hb : b.name = r.name) : l₁ = k₁ ∧ r = b ∧ l₂ = k₂ := by
  rw [names_append, List.nodup_append] at hl
  have hb₁ : b ∉ l₁ := fun h => hl.2.2 b.name (List.mem_map_of_mem h) r.name List.mem_cons_self hb
  have hb₂ : b ∉ l₂ := fun h => (List.nodup_cons.mp hl.2.1).1 (List.mem_map.mpr ⟨b, h, hb⟩)
  exact (List.append_cons_inj_of_notMem hb₁ hb₂).mp he

lemma crowded_append_iff {l₁ l₂ : RuleList} {r : RuleEntry} (hr : r.name = before)
    (hl : (names (l₁ ++ r :: l₂)).Nodup) :
    Crowded (l₁ ++ r :: l₂) before ↔ r.priority - lowerEnd none l₁ r.priority < 2 := by
  constructor
  · rintro ⟨k₁, q, b, k₂, he, hb, hlt⟩
    obtain ⟨rfl, rfl, -⟩ := split_unique hl (he.trans (List.append_cons k₁ q (b :: k₂))) (hb.trans hr.symm)
    rwa [lowerEnd_concat]
  · intro hlt
    rcases List.eq_nil_or_concat l₁ with rfl | ⟨k₁, q, rfl⟩
    · simp only [lowerEnd, spacing, List.getLast?_nil, Option.map_none, Option.none_or,
        Option.getD_none] at hlt
      omega
    · rw [List.concat_eq_append, lowerEnd_concat] at hlt
      exact ⟨k₁, q, r, l₂, by simp, hr, hlt⟩

/-- A rule was put into a list: behind rules of lower and in front of rules of higher priority, and
right in front of the rule called `before` if that is a name. -/
def Inserted (l : RuleList) (entry : RuleEntry) (before : Bytes) (l' : RuleList) : Prop :=
  ∃ l₁ l₂ : RuleList, l = l₁ ++ l₂ ∧ l' = l₁ ++ entry :: l₂ ∧
    (∀ r ∈ l₁.getLast?, r.priority < entry.priority) ∧
    (∀ r ∈ l₂.head?, entry.priority < r.priority) ∧
    (before ≠ [] → ∃ r ∈ l₂.head?, r.name = before)

lemma inserted_last (l : RuleList) (name triggers : Bytes) :
    Inserted l ⟨name, l.lastPriority, triggers⟩ [] (l ++ [⟨name, l.lastPriority, triggers⟩]) := by
  refine ⟨l, [], by simp, rfl, ?_, by simp, by simp⟩
  intro r hr
  simp only [lastPriority, Option.mem_def.mp hr, spacing]
  omega

lemma inserted_halfway {l₁ l₂ : RuleList} {r : RuleEntry} (hr : r.name = before) (triggers : Bytes)
    (h : ¬ r.priority - lowerEnd none l₁ r.priority < 2) :
    let low := lowerEnd none l₁ r.priority
    let entry : RuleEntry := ⟨name, low + Int.tdiv (r.priority - low) 2, triggers⟩
    Inserted (l₁ ++ r :: l₂) entry before (l₁ ++ entry :: r :: l₂) := by
  have hbetween := (halfway_refused_iff (lowerEnd none l₁ r.priority) r.priority).not.mpr h
  simp only [Bool.or_eq_true, decide_eq_true_eq, not_or, Int.not_le, ge_iff_le] at hbetween
  refine ⟨l₁, r :: l₂, rfl, rfl, ?_, ?_, fun _ => ⟨r, rfl, hr⟩⟩
  · intro q hq
    have hlow : lowerEnd none l₁ r.priority = q.priority := by simp [lowerEnd, Option.mem_def.mp hq]
    rw [hlow] at hbetween ⊢
    exact hbetween.1
  · intro q hq
    obtain rfl := Option.some.inj hq
    exact hbetween.2

lemma insert_cases (hl : l.names.Nodup) (name before triggers : Bytes) :
    (name ∈ l.names ∧ l.insert name before triggers = .error (.duplicate name)) ∨
    (name ∉ l.names ∧ before ≠ [] ∧ before ∉ l.names ∧
      l.insert name before triggers = .error (.unknown before)) ∨
    (name ∉ l.names ∧ before ≠ [] ∧ before ∈ l.names ∧ l.Crowded before ∧
      ∃ low high, l.insert name before triggers = .error (.noPriority low high name)) ∨
    (name ∉ l.names ∧ (before = [] ∨ before ∈ l.names ∧ ¬ l.Crowded before) ∧
      ∃ l' priority, l.insert name before triggers = .ok (l', priority) ∧
        Inserted l ⟨name, priority, triggers⟩ before l') := by
  have hcontains : l.contains name = true ↔ name ∈ l.names := List.contains_iff_mem
  by_cases hn : name ∈ l.names
  · exact .inl ⟨hn, if_pos (hcontains.mpr hn)⟩
  rw [insert, if_neg (hcontains.not.mpr hn)]
  by_cases hb : before = []
  · subst hb
    exact .inr (.inr (.inr ⟨hn, .inl rfl, _, _, rfl, inserted_last l name triggers⟩))
  rw [if_neg (by simpa using hb)]
  by_cases hm : before ∈ l.names
  · obtain ⟨l₁, r, l₂, rfl, hr, hl₁⟩ := exists_split hm
    rw [insertBefore_append none hr hl₁, crowded_append_iff hr hl]
    simp only
    split
    · rename_i hc
      exact .inr (.inr (.inl ⟨hn, hb, hm, hc, _, _, rfl⟩))
    · rename_i hc
      exact .inr (.inr (.inr ⟨hn, .inr ⟨hm, hc⟩, _, _, rfl, inserted_halfway hr triggers hc⟩))
  · exact .inr (.inl ⟨hn, hb, hm, insertBefore_of_notMem none hm⟩)

end MarkdownTidy.RuleList
