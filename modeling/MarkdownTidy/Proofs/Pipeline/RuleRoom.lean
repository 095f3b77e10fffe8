import MarkdownTidy.Proofs.Pipeline.RuleOrder
import Mathlib.Data.Nat.Log

/-! How many rules fit in front of another one. Each takes the lower half of what is left of the gap between two
priorities, so their number is the binary logarithm of the gap, rounded up. -/

namespace MarkdownTidy

namespace RuleList

variable {l l' : RuleList} {name before triggers : Bytes} {gap : Int}

/-- The rule called `before` is not the first, and its priority exceeds that of its predecessor by `gap`. -/
def Gap (l : RuleList) (before : Bytes) (gap : Int) : Prop :=
  ∃ (l₁ : RuleList) (r b : RuleEntry) (l₂ : RuleList),
    l = l₁ ++ r :: b :: l₂ ∧ b.name = before ∧ b.priority - r.priority = gap

def attempt (l : RuleList) (name before triggers : Bytes) : RuleList :=
  ((l.insert name before triggers).toOption.map (·.1)).getD l

def attempts (l : RuleList) (before : Bytes) (rules : List (Bytes × Bytes)) : RuleList :=
  rules.foldl (fun l r => l.attempt r.1 before r.2) l

lemma nodup_attempt (hl : l.names.Nodup) (name before triggers : Bytes) : (l.attempt name before triggers).names.Nodup := by
  rw [attempt]
  cases h : l.insert name before triggers with
  | error e => exact hl
  | ok r =>
    obtain ⟨hn, hi⟩ := Pipeline.inserted_of_insert hl h
    exact Pipeline.nodup_of_inserted hl hn hi

lemma clog_halved {g : Int} (h : 2 ≤ g) : Nat.clog 2 g.toNat = Nat.clog 2 (g - g / 2).toNat + 1 := by
  have hhalf : (g - g / 2).toNat = (g.toNat + 2 - 1) / 2 := by omega
  rw [hhalf]
  exact Nat.clog_of_two_le (by decide) (by omega)

lemma Gap.insert (h : l.Gap before gap) (hl : l.names.Nodup) (hb : before ≠ []) (hn : name ∉ l.names) (triggers : Bytes) :
    if gap < 2 then ∃ low high, l.insert name before triggers = .error (.noPriority low high name)
    else ∃ l' priority, l.insert name before triggers = .ok (l', priority) ∧ l'.Gap before (gap - gap / 2) := by
  obtain ⟨l₁, r, b, l₂, rfl, rfl, rfl⟩ := h
  have hnotin : b.name ∉ names (l₁ ++ [r]) := by
    rw [List.append_cons, names_append] at hl
    exact fun hmem => (List.nodup_append.mp hl).2.2 b.name hmem b.name List.mem_cons_self rfl
  have hcontains : RuleList.contains (l₁ ++ [r] ++ b :: l₂) name = false := by
    rw [← List.append_cons, Bool.eq_false_iff]
    exact fun h => hn (List.contains_iff_mem.mp h)
  have hempty : ¬ b.name.isEmpty = true := by simpa using hb
  have hinsert := @insertBefore_append name b.name triggers none (l₁ ++ [r]) l₂ b rfl hnotin
  rw [lowerEnd_concat] at hinsert
  rw [List.append_cons, RuleList.insert, hcontains, if_neg Bool.false_ne_true, if_neg hempty, hinsert]
  dsimp only
  split
  · exact ⟨_, _, rfl⟩
  · rename_i hgap
    refine ⟨_, _, rfl, l₁ ++ [r], _, b, l₂, rfl, rfl, ?_⟩
    rw [Int.tdiv_eq_ediv_of_nonneg (by omega)]
    dsimp only
    omega

lemma Gap.attempt (h : l.Gap before gap) (hl : l.names.Nodup) (hb : before ≠ []) (hn : name ∉ l.names) (triggers : Bytes) :
    ∃ gap', (l.attempt name before triggers).Gap before gap' ∧ Nat.clog 2 gap'.toNat = Nat.clog 2 gap.toNat - 1 := by
  have hinsert := h.insert hl hb hn triggers
  split at hinsert
  · rename_i hgap
    obtain ⟨low, high, he⟩ := hinsert
    refine ⟨gap, ?_, by rw [Nat.clog_of_right_le_one (by omega)]⟩
    rwa [RuleList.attempt, he]
  · rename_i hgap
    obtain ⟨l', priority, he, hl'⟩ := hinsert
    refine ⟨gap - gap / 2, ?_, by rw [clog_halved (by omega : 2 ≤ gap), Nat.add_sub_cancel]⟩
    rwa [RuleList.attempt, he]

lemma Gap.attempts {rules : List (Bytes × Bytes)} (h : l.Gap before gap) (hl : l.names.Nodup) (hb : before ≠ [])
    (hfresh : ∀ k r, rules[k]? = some r → r.1 ∉ (l.attempts before (rules.take k)).names) :
    ∃ gap', (l.attempts before rules).Gap before gap' ∧ Nat.clog 2 gap'.toNat = Nat.clog 2 gap.toNat - rules.length := by
  induction rules generalizing l gap with
  | nil => exact ⟨gap, h, rfl⟩
  | cons r rules ih =>
    obtain ⟨gap₁, h₁, hclog₁⟩ := h.attempt hl hb (hfresh 0 r rfl) r.2
    obtain ⟨gap₂, h₂, hclog₂⟩ := ih h₁ (nodup_attempt hl _ _ _) fun k r' hr' => hfresh (k + 1) r' hr'
    refine ⟨gap₂, h₂, ?_⟩
    rw [hclog₂, hclog₁, List.length_cons]
    omega

lemma nodup_attempts (hl : l.names.Nodup) (before : Bytes) (rules : List (Bytes × Bytes)) :
    (l.attempts before rules).names.Nodup := by
  induction rules generalizing l with
  | nil => exact hl
  | cons r rules ih => exact ih (nodup_attempt hl _ _ _)

lemma Gap.insert_attempts {rules : List (Bytes × Bytes)} (h : l.Gap before gap) (hl : l.names.Nodup) (hb : before ≠ [])
    (hfresh : ∀ k r, rules[k]? = some r → r.1 ∉ (l.attempts before (rules.take k)).names) {k : Nat} {r : Bytes × Bytes}
    (hr : rules[k]? = some r) :
    (k < Nat.clog 2 gap.toNat →
      ∃ l' priority, (l.attempts before (rules.take k)).insert r.1 before r.2 = .ok (l', priority)) ∧
    (Nat.clog 2 gap.toNat ≤ k →
      ∃ low high, (l.attempts before (rules.take k)).insert r.1 before r.2 = .error (.noPriority low high r.1)) := by
  have hk : k < rules.length := (List.getElem?_eq_some_iff.mp hr).1
  have hfresh' : ∀ j r', (rules.take k)[j]? = some r' → r'.1 ∉ (l.attempts before ((rules.take k).take j)).names := by
    intro j r' hr'
    rw [List.getElem?_take] at hr'
    split at hr'
    · rename_i hj
      rw [List.take_take, min_eq_left hj.le]
      exact hfresh j r' hr'
    · cases hr'
  obtain ⟨gap', hgap, hclog⟩ := h.attempts hl hb hfresh'
  rw [List.length_take, min_eq_left hk.le] at hclog
  have hinsert := hgap.insert (nodup_attempts hl _ _) hb (hfresh k r hr) r.2
  split at hinsert
  · rename_i hsmall
    rw [Nat.clog_of_right_le_one (by omega)] at hclog
    exact ⟨fun hlt => by omega, fun _ => hinsert⟩
  · rename_i hlarge
    have hpos := Nat.clog_pos (by decide : 1 < 2) (by omega : 2 ≤ gap'.toNat)
    obtain ⟨l', priority, he, -⟩ := hinsert
    exact ⟨fun _ => ⟨l', priority, he⟩, fun hle => by omega⟩

lemma insert_outside (hl : l.names.Nodup) (hn : name ∉ l.names) (hb : before = [] ∨ ∃ r ∈ l.head?, r.name = before)
    (triggers : Bytes) : ∃ l' priority, l.insert name before triggers = .ok (l', priority) := by
  rcases insert_cases hl name before triggers with ⟨hmem, -⟩ | ⟨-, hne, hnone, -⟩ | ⟨-, hne, -, hcrowded, -⟩ |
    ⟨-, -, l', priority, he, -⟩
  · exact absurd hmem hn
  · obtain ⟨r, hr, rfl⟩ := hb.resolve_left hne
    exact absurd (List.mem_map_of_mem (List.mem_of_mem_head? hr)) hnone
  · obtain ⟨r, hr, rfl⟩ := hb.resolve_left hne
    obtain ⟨l₁, q, b, l₂, rfl, hname, -⟩ := hcrowded
    -- the first rule would have a predecessor
    obtain ⟨k, hk⟩ := List.head?_eq_some_iff.mp hr
    obtain ⟨hnil, -, -⟩ := split_unique (hk ▸ hl : (names ([] ++ r :: k)).Nodup)
      (hk.symm.trans (List.append_cons l₁ q (b :: l₂))) hname
    cases l₁ <;> cases hnil
  · exact ⟨l', priority, he⟩

end RuleList

namespace Pipeline

variable {p q : Pipeline} {before : Bytes} {gap : Int}

def afterInlineRules (p : Pipeline) (before : Bytes) (rules : List (Bytes × InlineRule)) : Pipeline :=
  p.afterAll (rules.map fun r => .register (.inlineRule r.1 r.2 before))

def afterBlockRules (p : Pipeline) (before : Bytes) (rules : List (Bytes × BlockRule)) : Pipeline :=
  p.afterAll (rules.map fun r => .register (.blockRule r.1 r.2 before))

lemma inline_after (hs : p.isSealed = false) (name before : Bytes) (rule : InlineRule) :
    (p.after (.register (.inlineRule name rule before))).inline = p.inline.attempt name before rule.triggers := by
  simp only [Pipeline.after, register, addInlineRule, hs, Bool.false_eq_true, if_false, RuleList.attempt]
  cases p.inline.insert name before rule.triggers <;> rfl

lemma block_after (hs : p.isSealed = false) (name before : Bytes) (rule : BlockRule) :
    (p.after (.register (.blockRule name rule before))).block = p.block.attempt name before [] := by
  simp only [Pipeline.after, register, addBlockRule, hs, Bool.false_eq_true, if_false, RuleList.attempt]
  cases p.block.insert name before [] <;> rfl

lemma inline_afterInlineRules (hs : p.isSealed = false) (before : Bytes) (rules : List (Bytes × InlineRule)) :
    (p.afterInlineRules before rules).isSealed = false ∧
      (p.afterInlineRules before rules).inline = p.inline.attempts before (rules.map fun r => (r.1, r.2.triggers)) := by
  induction rules generalizing p with
  | nil => exact ⟨hs, rfl⟩
  | cons r rules ih =>
    have hnext := @ih (p.after (.register (.inlineRule r.1 r.2 before))) (by rw [isSealed_after, hs]; rfl)
    rwa [inline_after hs] at hnext

lemma block_afterBlockRules (hs : p.isSealed = false) (before : Bytes) (rules : List (Bytes × BlockRule)) :
    (p.afterBlockRules before rules).isSealed = false ∧
      (p.afterBlockRules before rules).block = p.block.attempts before (rules.map fun r => (r.1, [])) := by
  induction rules generalizing p with
  | nil => exact ⟨hs, rfl⟩
  | cons r rules ih =>
    have hnext := @ih (p.after (.register (.blockRule r.1 r.2 before))) (by rw [isSealed_after, hs]; rfl)
    rwa [block_after hs] at hnext

lemma addInlineRule_of_ok (hs : p.isSealed = false) {name : Bytes} {rule : InlineRule} {l : RuleList} {priority : Int}
    (h : p.inline.insert name before rule.triggers = .ok (l, priority)) : ∃ q, p.addInlineRule name rule before = .ok q := by
  simp [addInlineRule, hs, h]

lemma addInlineRule_of_error (hs : p.isSealed = false) {name : Bytes} {rule : InlineRule} {e : RuleError}
    (h : p.inline.insert name before rule.triggers = .error e) : p.addInlineRule name rule before = .error (.rule .inline e) := by
  simp [addInlineRule, hs, h]

lemma addBlockRule_of_ok (hs : p.isSealed = false) {name : Bytes} {rule : BlockRule} {l : RuleList} {priority : Int}
    (h : p.block.insert name before [] = .ok (l, priority)) : ∃ q, p.addBlockRule name rule before = .ok q := by
  simp [addBlockRule, hs, h]

lemma addBlockRule_of_error (hs : p.isSealed = false) {name : Bytes} {rule : BlockRule} {e : RuleError}
    (h : p.block.insert name before [] = .error e) : p.addBlockRule name rule before = .error (.rule .block e) := by
  simp [addBlockRule, hs, h]

lemma addInlineRule_attempts (hs : q.isSealed = false) (hl : q.inline.names.Nodup) (hb : before ≠ [])
    (h : q.inline.Gap before gap) {rules : List (Bytes × InlineRule)}
    (hfresh : ∀ k r, rules[k]? = some r → r.1 ∉ (q.afterInlineRules before (rules.take k)).inline.names) {k : Nat}
    {r : Bytes × InlineRule} (hr : rules[k]? = some r) :
    let answer := (q.afterInlineRules before (rules.take k)).addInlineRule r.1 r.2 before
    (k < Nat.clog 2 gap.toNat → ∃ q', answer = .ok q') ∧
      (Nat.clog 2 gap.toNat ≤ k → ∃ low high, answer = .error (.rule .inline (.noPriority low high r.1))) := by
  obtain ⟨hopen, hlist⟩ := inline_afterInlineRules hs before (rules.take k)
  have hr' : (rules.map fun r => (r.1, r.2.triggers))[k]? = some (r.1, r.2.triggers) := by
    rw [List.getElem?_map, hr]
    rfl
  have hfresh' : ∀ j s, (rules.map fun r => (r.1, r.2.triggers))[j]? = some s →
      s.1 ∉ (q.inline.attempts before ((rules.map fun r => (r.1, r.2.triggers)).take j)).names := by
    intro j s hj
    rw [List.getElem?_map, Option.map_eq_some_iff] at hj
    obtain ⟨s, hj, rfl⟩ := hj
    rw [← List.map_take, ← (inline_afterInlineRules hs before (rules.take j)).2]
    exact hfresh j s hj
  obtain ⟨hfits, hfull⟩ := h.insert_attempts hl hb hfresh' hr'
  rw [← List.map_take, ← hlist] at hfits hfull
  refine ⟨fun hk => ?_, fun hk => ?_⟩
  · obtain ⟨l', priority, he⟩ := hfits hk
    exact addInlineRule_of_ok hopen he
  · obtain ⟨low, high, he⟩ := hfull hk
    exact ⟨low, high, addInlineRule_of_error hopen he⟩

lemma addBlockRule_attempts (hs : q.isSealed = false) (hl : q.block.names.Nodup) (hb : before ≠ [])
    (h : q.block.Gap before gap) {rules : List (Bytes × BlockRule)}
    (hfresh : ∀ k r, rules[k]? = some r → r.1 ∉ (q.afterBlockRules before (rules.take k)).block.names) {k : Nat}
    {r : Bytes × BlockRule} (hr : rules[k]? = some r) :
    let answer := (q.afterBlockRules before (rules.take k)).addBlockRule r.1 r.2 before
    (k < Nat.clog 2 gap.toNat → ∃ q', answer = .ok q') ∧
      (Nat.clog 2 gap.toNat ≤ k → ∃ low high, answer = .error (.rule .block (.noPriority low high r.1))) := by
  obtain ⟨hopen, hlist⟩ := block_afterBlockRules hs before (rules.take k)
  have hr' : (rules.map fun r => (r.1, ([] : Bytes)))[k]? = some (r.1, []) := by
    rw [List.getElem?_map, hr]
    rfl
  have hfresh' : ∀ j s, (rules.map fun r => (r.1, ([] : Bytes)))[j]? = some s →
      s.1 ∉ (q.block.attempts before ((rules.map fun r => (r.1, [])).take j)).names := by
    intro j s hj
    rw [List.getElem?_map, Option.map_eq_some_iff] at hj
    obtain ⟨s, hj, rfl⟩ := hj
    rw [← List.map_take, ← (block_afterBlockRules hs before (rules.take j)).2]
    exact hfresh j s hj
  obtain ⟨hfits, hfull⟩ := h.insert_attempts hl hb hfresh' hr'
  rw [← List.map_take, ← hlist] at hfits hfull
  refine ⟨fun hk => ?_, fun hk => ?_⟩
  · obtain ⟨l', priority, he⟩ := hfits hk
    exact addBlockRule_of_ok hopen he
  · obtain ⟨low, high, he⟩ := hfull hk
    exact ⟨low, high, addBlockRule_of_error hopen he⟩

/-- On every open pipeline whose rules have names, rules of new names that are registered in front of another rule, one
after the other, are taken as often as the binary logarithm of the gap in front of it says, rounded up, and then refused
for want of a priority. In front of the first rule and behind the last one a rule of a new name is always taken. -/
theorem addRule_gap {style : Style} {plugins : List Plugin} (h : new style plugins = .ok p) {calls : List Call}
    (hopen : ∀ c ∈ calls, c.isReading = false)
    (hinline : ∀ r ∈ givenInline plugins ++ p.takenAll Plugin.inlineRule? calls, r.1 ≠ [])
    (hblock : ∀ r ∈ givenBlock plugins ++ p.takenAll Plugin.blockRule? calls, r.1 ≠ []) :
    let q := p.afterAll calls
    (∀ before gap, q.inline.Gap before gap → ∀ rules : List (Bytes × InlineRule),
      (∀ k r, rules[k]? = some r → r.1 ∉ (q.afterInlineRules before (rules.take k)).inline.names) →
      ∀ k r, rules[k]? = some r →
        let answer := (q.afterInlineRules before (rules.take k)).addInlineRule r.1 r.2 before
        (k < Nat.clog 2 gap.toNat → ∃ q', answer = .ok q') ∧
          (Nat.clog 2 gap.toNat ≤ k → ∃ low high, answer = .error (.rule .inline (.noPriority low high r.1)))) ∧
    (∀ before gap, q.block.Gap before gap → ∀ rules : List (Bytes × BlockRule),
      (∀ k r, rules[k]? = some r → r.1 ∉ (q.afterBlockRules before (rules.take k)).block.names) →
      ∀ k r, rules[k]? = some r →
        let answer := (q.afterBlockRules before (rules.take k)).addBlockRule r.1 r.2 before
        (k < Nat.clog 2 gap.toNat → ∃ q', answer = .ok q') ∧
          (Nat.clog 2 gap.toNat ≤ k → ∃ low high, answer = .error (.rule .block (.noPriority low high r.1)))) ∧
    (∀ name rule before, name ∉ q.inline.names → (before = [] ∨ ∃ r ∈ q.inline.head?, r.name = before) →
      ∃ q', q.addInlineRule name rule before = .ok q') ∧
    (∀ name rule before, name ∉ q.block.names → (before = [] ∨ ∃ r ∈ q.block.head?, r.name = before) →
      ∃ q', q.addBlockRule name rule before = .ok q') := by
  intro q
  have hq := (reached_of_new h).afterAll calls
  have hs : q.isSealed = false := by
    rw [isSealed_afterAll, isSealed_new h, Bool.or_false, List.any_eq_false]
    exact fun c hc => by simp [hopen c hc]
  obtain ⟨hnames, hnames'⟩ := hq.names_perm
  have hmem : ∀ {l : RuleList} {before : Bytes} {gap : Int}, l.Gap before gap → before ∈ l.names := by
    rintro l _ _ ⟨l₁, r, b, l₂, rfl, rfl, -⟩
    simp [RuleList.names]
  refine ⟨?_, ?_, ?_, ?_⟩
  · intro before gap hgap rules hfresh k r hr
    obtain ⟨s, hs', rfl⟩ := List.mem_map.mp (hnames.mem_iff.mp (hmem hgap))
    exact addInlineRule_attempts hs hq.nodup.1 (hinline s hs') hgap hfresh hr
  · intro before gap hgap rules hfresh k r hr
    obtain ⟨s, hs', rfl⟩ := List.mem_map.mp (hnames'.mem_iff.mp (hmem hgap))
    exact addBlockRule_attempts hs hq.nodup.2 (hblock s hs') hgap hfresh hr
  · intro name rule before hn hb
    obtain ⟨l', priority, he⟩ := RuleList.insert_outside hq.nodup.1 hn hb rule.triggers
    exact addInlineRule_of_ok hs he
  · intro name rule before hn hb
    obtain ⟨l', priority, he⟩ := RuleList.insert_outside hq.nodup.2 hn hb []
    exact addBlockRule_of_ok hs he

/-- Seven rules fit into a gap of one hundred. -/
theorem addRule_gap_hundred :
    let code := utf8 "code"
    let rules : List (Bytes × InlineRule) := ["a", "b", "c", "d", "e", "f", "g", "h"].map fun n => (utf8 n, .attributeList)
    ∃ p, new {} [] = .ok p ∧ p.inline.Gap code 100 ∧
      (∃ q, (p.afterInlineRules code (rules.take 6)).addInlineRule (utf8 "g") .attributeList code = .ok q) ∧
      ∃ low high, (p.afterInlineRules code (rules.take 7)).addInlineRule (utf8 "h") .attributeList code =
        .error (.rule .inline (.noPriority low high (utf8 "h"))) := by
  intro code rules
  have hgap : (bare {}).inline.Gap code 100 :=
    ⟨[], ⟨utf8 "taskCheckBox", 0, utf8 "["⟩, ⟨code, 100, utf8 "`"⟩, (bare {}).inline.drop 2, by decide +kernel, rfl, rfl⟩
  have hnames : ∀ k < 8, ∀ r ∈ rules[k]?, r.1 ∉ ((bare {}).afterInlineRules code (rules.take k)).inline.names := by
    decide +kernel
  have hfresh : ∀ k r, rules[k]? = some r → r.1 ∉ ((bare {}).afterInlineRules code (rules.take k)).inline.names := by
    intro k r hr
    exact hnames k (List.getElem?_eq_some_iff.mp hr).1 r hr
  have hclog : Nat.clog 2 (100 : Int).toNat = 7 := by decide +kernel
  have hopen : ∀ c ∈ ([] : List Call), c.isReading = false := by simp
  have hall := (addRule_gap (show new {} [] = .ok (bare {}) from rfl) hopen
    (show ∀ r ∈ givenInline [] ++ [], r.1 ≠ [] by decide +kernel)
    (show ∀ r ∈ givenBlock [] ++ [], r.1 ≠ [] by decide +kernel)).1 code 100 hgap rules hfresh
  rw [hclog] at hall
  exact ⟨bare {}, rfl, hgap, (hall 6 _ rfl).1 (by decide), (hall 7 _ rfl).2 (by decide)⟩

end Pipeline

end MarkdownTidy
