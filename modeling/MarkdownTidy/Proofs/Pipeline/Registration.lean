import MarkdownTidy.Pipeline.Call
import MarkdownTidy.Proofs.Outcomes
import MarkdownTidy.Proofs.Pipeline.RuleInsertion

/-! Registering rules on a pipeline. Which calls are refused, and why, depends on the names and priorities
of one list only; a refused call changes nothing, and a pipeline that has read a document takes no more
rules. -/

namespace MarkdownTidy

/-- The inline rule that a plugin adds, with its name. -/
def Plugin.inlineRule? : Plugin → Option (Bytes × InlineRule)
  | inlineRule name rule _ => some (name, rule)
  | shortcodes source true => some (utf8 "shortcode", .shortcode source)
  | alerts => some (utf8 "alert", .alert)
  | attributeList => some (utf8 "attributeList", .attributeList)
  | blockRule .. | visitor .. | shortcodes _ false => none

/-- The block rule that a plugin adds, with its name. -/
def Plugin.blockRule? : Plugin → Option (Bytes × BlockRule)
  | blockRule name rule _ => some (name, rule)
  | shortcodes source false => some (utf8 "shortcode", .shortcode source)
  | inlineRule .. | visitor .. | shortcodes _ true | alerts | attributeList => none

def Plugin.visitor? : Plugin → Option (String × Visitor)
  | visitor kind v => some (kind, v)
  | shortcodes .. => some ("Shortcode", .shortcode)
  | alerts => some ("AlertFlag", .alertFlag)
  | attributeList => some ("AttrList", .attributeList)
  | inlineRule .. | blockRule .. => none

namespace Pipeline

variable {p q : Pipeline} {name before : Bytes}

/-! ### Adding one rule -/

lemma addInlineRule_eq_ok {rule : InlineRule} (h : p.addInlineRule name rule before = .ok q) :
    p.isSealed = false ∧ ∃ l priority, p.inline.insert name before rule.triggers = .ok (l, priority) ∧
      q = { p with inline := l, inlineRules := p.inlineRules ++ [⟨priority, rule⟩] } := by
  rw [addInlineRule] at h
  split at h
  · cases h
  · rename_i hs
    split at h
    · cases h
    · rename_i l priority hl
      exact ⟨Bool.eq_false_iff.mpr hs, l, priority, hl, (Except.ok.inj h).symm⟩

lemma addBlockRule_eq_ok {rule : BlockRule} (h : p.addBlockRule name rule before = .ok q) :
    p.isSealed = false ∧ ∃ l priority, p.block.insert name before [] = .ok (l, priority) ∧
      q = { p with block := l, blockRules := p.blockRules ++ [⟨priority, rule⟩] } := by
  rw [addBlockRule] at h
  split at h
  · cases h
  · rename_i hs
    split at h
    · cases h
    · rename_i l priority hl
      exact ⟨Bool.eq_false_iff.mpr hs, l, priority, hl, (Except.ok.inj h).symm⟩

def addVisitor? (p : Pipeline) : Option (String × Visitor) → Pipeline
  | none => p
  | some (kind, v) => p.addVisitor kind v

@[simp] lemma addVisitor?_style (v? : Option (String × Visitor)) : (p.addVisitor? v?).style = p.style := by
  cases v? <;> rfl

@[simp] lemma addVisitor?_isSealed (v? : Option (String × Visitor)) :
    (p.addVisitor? v?).isSealed = p.isSealed := by
  cases v? <;> rfl

@[simp] lemma addVisitor?_inline (v? : Option (String × Visitor)) :
    (p.addVisitor? v?).inline = p.inline := by
  cases v? <;> rfl

@[simp] lemma addVisitor?_visitors (v? : Option (String × Visitor)) :
    (p.addVisitor? v?).visitors = v?.toList ++ p.visitors := by
  cases v? <;> rfl

lemma register_cases {x : Plugin} (h : p.register x = .ok q) :
    (∃ name rule before p', x.inlineRule? = some (name, rule) ∧ x.blockRule? = none ∧
      p.addInlineRule name rule before = .ok p' ∧ q = p'.addVisitor? x.visitor?) ∨
    (∃ name rule before p', x.inlineRule? = none ∧ x.blockRule? = some (name, rule) ∧
      p.addBlockRule name rule before = .ok p' ∧ q = p'.addVisitor? x.visitor?) ∨
    x.inlineRule? = none ∧ x.blockRule? = none ∧ q = p.addVisitor? x.visitor? := by
  cases x with
  | inlineRule name rule before => exact .inl ⟨name, rule, before, q, rfl, rfl, h, rfl⟩
  | blockRule name rule before => exact .inr (.inl ⟨name, rule, before, q, rfl, rfl, h, rfl⟩)
  | visitor kind v => exact .inr (.inr ⟨rfl, rfl, (Except.ok.inj h).symm⟩)
  | shortcodes source inline =>
    cases inline with
    | true =>
      obtain ⟨p', hp', hq⟩ := exists_of_bind_eq_ok h
      exact .inl ⟨_, _, _, p', rfl, rfl, hp', (Except.ok.inj hq).symm⟩
    | false =>
      obtain ⟨p', hp', hq⟩ := exists_of_bind_eq_ok h
      exact .inr (.inl ⟨_, _, _, p', rfl, rfl, hp', (Except.ok.inj hq).symm⟩)
  | alerts =>
    obtain ⟨p', hp', hq⟩ := exists_of_bind_eq_ok h
    exact .inl ⟨_, _, _, p', rfl, rfl, hp', (Except.ok.inj hq).symm⟩
  | attributeList =>
    obtain ⟨p', hp', hq⟩ := exists_of_bind_eq_ok h
    exact .inl ⟨_, _, _, p', rfl, rfl, hp', (Except.ok.inj hq).symm⟩

/-! ### Block rules -/

@[simp] lemma addVisitor?_blockRules (v? : Option (String × Visitor)) :
    (p.addVisitor? v?).blockRules = p.blockRules := by
  cases v? <;> rfl

lemma visitors_register {x : Plugin} (h : p.register x = .ok q) :
    q.style = p.style ∧ q.visitors = x.visitor?.toList ++ p.visitors := by
  rcases register_cases h with ⟨_, _, _, p', -, -, hp', rfl⟩ | ⟨_, _, _, p', -, -, hp', rfl⟩ |
    ⟨-, -, rfl⟩
  · obtain ⟨-, _, _, -, rfl⟩ := addInlineRule_eq_ok hp'
    simp
  · obtain ⟨-, _, _, -, rfl⟩ := addBlockRule_eq_ok hp'
    simp
  · simp

lemma visitors_registerAll {plugins : List Plugin} (h : p.registerAll plugins = .ok q) :
    q.style = p.style ∧ ∀ v ∈ q.visitors, v ∈ p.visitors ∨ ∃ x ∈ plugins, x.visitor? = some v := by
  induction plugins generalizing p with
  | nil =>
    obtain rfl := Except.ok.inj h
    exact ⟨rfl, fun v hv => .inl hv⟩
  | cons x xs ih =>
    rw [registerAll] at h
    split at h
    · cases h
    · rename_i p' hp'
      obtain ⟨hs, hv⟩ := visitors_register hp'
      obtain ⟨hs', ih⟩ := ih h
      refine ⟨hs'.trans hs, fun v hm => ?_⟩
      rcases ih v hm with hm | ⟨y, hy, hv'⟩
      · rw [hv, List.mem_append, Option.mem_toList] at hm
        exact hm.symm.imp_right fun hx => ⟨x, List.mem_cons_self, hx⟩
      · exact .inr ⟨y, List.mem_cons_of_mem x hy, hv'⟩

lemma visitors_new {style : Style} {plugins : List Plugin} (h : new style plugins = .ok p) :
    style.problem? = none ∧ p.style = style ∧
      ∀ v ∈ p.visitors, ∃ x ∈ plugins, x.visitor? = some v := by
  rw [new] at h
  split at h
  · cases h
  · rename_i hs
    obtain ⟨hstyle, hv⟩ := visitors_registerAll h
    exact ⟨hs, hstyle, fun v hm => (hv v hm).resolve_left (by simp [bare])⟩

/-! ### Pipelines that calls lead to -/

/-- A pipeline that calls can lead to, with the rules it was given, under their names and in that order. -/
inductive Reached : Pipeline → List (Bytes × InlineRule) → List (Bytes × BlockRule) → Prop
  | bare (style : Style) :
      Reached (bare style) (defaultInline.map fun (e, r) => (e.name, r))
        (defaultBlock.map fun (e, r) => (e.name, r))
  | inline {p q : Pipeline} {i : List (Bytes × InlineRule)} {b : List (Bytes × BlockRule)}
      {name before : Bytes} {rule : InlineRule} (h : Reached p i b)
      (hq : p.addInlineRule name rule before = .ok q) : Reached q (i ++ [(name, rule)]) b
  | block {p q : Pipeline} {i : List (Bytes × InlineRule)} {b : List (Bytes × BlockRule)}
      {name before : Bytes} {rule : BlockRule} (h : Reached p i b)
      (hq : p.addBlockRule name rule before = .ok q) : Reached q i (b ++ [(name, rule)])
  | visitor {p : Pipeline} {i : List (Bytes × InlineRule)} {b : List (Bytes × BlockRule)}
      (h : Reached p i b) (kind : String) (v : Visitor) : Reached (p.addVisitor kind v) i b
  | reading {p : Pipeline} {i : List (Bytes × InlineRule)} {b : List (Bytes × BlockRule)}
      (h : Reached p i b) : Reached p.sealed i b

def taken {α : Type} (part : Plugin → Option α) (p : Pipeline) : Call → List α
  | .register x => if (p.register x).isOk then (part x).toList else []
  | .parse _ | .format _ => []

/-- What calls add to a pipeline when they are made one after the other. -/
def takenAll {α : Type} (part : Plugin → Option α) : Pipeline → List Call → List α
  | _, [] => []
  | p, c :: calls => p.taken part c ++ takenAll part (p.after c) calls

variable {i : List (Bytes × InlineRule)} {b : List (Bytes × BlockRule)}

lemma Reached.addVisitor? (h : Reached p i b) (v? : Option (String × Visitor)) :
    Reached (p.addVisitor? v?) i b := by
  cases v? with
  | none => exact h
  | some v => exact h.visitor v.1 v.2

lemma Reached.register {x : Plugin} (h : Reached p i b) (hq : p.register x = .ok q) :
    Reached q (i ++ x.inlineRule?.toList) (b ++ x.blockRule?.toList) := by
  rcases register_cases hq with ⟨name, rule, before, p', hi, hb, hp', rfl⟩ |
    ⟨name, rule, before, p', hi, hb, hp', rfl⟩ | ⟨hi, hb, rfl⟩
  · rw [hi, hb, Option.toList_none, List.append_nil]
    exact (h.inline hp').addVisitor? _
  · rw [hi, hb, Option.toList_none, List.append_nil]
    exact (h.block hp').addVisitor? _
  · rw [hi, hb, Option.toList_none, List.append_nil, Option.toList_none, List.append_nil]
    exact h.addVisitor? _

lemma Reached.after (h : Reached p i b) (c : Call) :
    Reached (p.after c) (i ++ p.taken Plugin.inlineRule? c) (b ++ p.taken Plugin.blockRule? c) := by
  cases c with
  | register x =>
    simp only [Pipeline.after, taken]
    cases hx : p.register x with
    | error e => simpa [Except.toOption, Except.isOk, Except.toBool] using h
    | ok q => exact h.register hx
  | parse source => simpa only [Pipeline.after, taken, List.append_nil] using h.reading
  | format source => simpa only [Pipeline.after, taken, List.append_nil] using h.reading

lemma Reached.afterAll (h : Reached p i b) (calls : List Call) :
    Reached (p.afterAll calls) (i ++ p.takenAll Plugin.inlineRule? calls)
      (b ++ p.takenAll Plugin.blockRule? calls) := by
  induction calls generalizing p i b with
  | nil => simpa only [Pipeline.afterAll, List.foldl_nil, takenAll, List.append_nil] using h
  | cons c calls ih =>
    have hc := ih (h.after c)
    rwa [List.append_assoc, List.append_assoc] at hc

lemma Reached.registerAll {plugins : List Plugin} (h : Reached p i b)
    (hq : p.registerAll plugins = .ok q) :
    Reached q (i ++ plugins.filterMap Plugin.inlineRule?) (b ++ plugins.filterMap Plugin.blockRule?) := by
  induction plugins generalizing p i b with
  | nil =>
    obtain rfl := Except.ok.inj hq
    simpa only [List.filterMap_nil, List.append_nil] using h
  | cons x plugins ih =>
    rw [Pipeline.registerAll] at hq
    split at hq
    · cases hq
    · rename_i p' hp'
      have hx := ih (h.register hp') hq
      rw [List.append_assoc, List.append_assoc] at hx
      rw [List.filterMap_cons, List.filterMap_cons]
      cases hi : x.inlineRule? <;> cases hb : x.blockRule? <;> rwa [hi, hb] at hx

def givenInline (plugins : List Plugin) : List (Bytes × InlineRule) :=
  (defaultInline.map fun (e, r) => (e.name, r)) ++ plugins.filterMap Plugin.inlineRule?

def givenBlock (plugins : List Plugin) : List (Bytes × BlockRule) :=
  (defaultBlock.map fun (e, r) => (e.name, r)) ++ plugins.filterMap Plugin.blockRule?

lemma reached_of_new {style : Style} {plugins : List Plugin} (h : new style plugins = .ok p) :
    Reached p (givenInline plugins) (givenBlock plugins) := by
  rw [new] at h
  split at h
  · cases h
  · exact (Reached.bare style).registerAll h

/-! ### Names -/

lemma nodup_of_inserted {l l' : RuleList} {entry : RuleEntry} (hl : l.names.Nodup)
    (hn : entry.name ∉ l.names) (h : l.Inserted entry before l') : l'.names.Nodup := by
  obtain ⟨l₁, l₂, rfl, rfl, -⟩ := h
  have hp : (RuleList.names (l₁ ++ entry :: l₂)).Perm (entry.name :: RuleList.names (l₁ ++ l₂)) :=
    List.perm_middle.map _
  exact hp.nodup_iff.mpr (List.nodup_cons.mpr ⟨hn, hl⟩)

lemma inserted_of_insert {l l' : RuleList} {triggers : Bytes} {priority : Int} (hl : l.names.Nodup)
    (h : l.insert name before triggers = .ok (l', priority)) :
    name ∉ l.names ∧ l.Inserted ⟨name, priority, triggers⟩ before l' := by
  rcases RuleList.insert_cases hl name before triggers with ⟨-, he⟩ | ⟨-, -, -, he⟩ |
    ⟨-, -, -, -, _, _, he⟩ | ⟨hn, -, _, _, he, hi⟩
  · rw [he] at h
    cases h
  · rw [he] at h
    cases h
  · rw [he] at h
    cases h
  · rw [he] at h
    cases h
    exact ⟨hn, hi⟩

lemma nodup_defaults : (RuleList.names (defaultInline.map (·.1))).Nodup ∧
    (RuleList.names (defaultBlock.map (·.1))).Nodup := by decide +kernel

lemma Reached.nodup (h : Reached p i b) : p.inline.names.Nodup ∧ p.block.names.Nodup := by
  induction h with
  | bare style => exact nodup_defaults
  | inline _ hq ih =>
    obtain ⟨-, l, priority, hl, rfl⟩ := addInlineRule_eq_ok hq
    obtain ⟨hn, hi⟩ := inserted_of_insert ih.1 hl
    exact ⟨nodup_of_inserted ih.1 hn hi, ih.2⟩
  | block _ hq ih =>
    obtain ⟨-, l, priority, hl, rfl⟩ := addBlockRule_eq_ok hq
    obtain ⟨hn, hi⟩ := inserted_of_insert ih.2 hl
    exact ⟨ih.1, nodup_of_inserted ih.2 hn hi⟩
  | visitor _ _ _ ih => exact ih
  | reading _ ih => exact ih

/-! ### Sealing -/

/-- Whether a call reads a document. -/
def Call.isReading : Call → Bool
  | register _ => false
  | parse _ | format _ => true

lemma isSealed_register {x : Plugin} (h : p.register x = .ok q) : q.isSealed = p.isSealed := by
  rcases register_cases h with ⟨_, _, _, p', -, -, hp', rfl⟩ | ⟨_, _, _, p', -, -, hp', rfl⟩ |
    ⟨-, -, rfl⟩
  · obtain ⟨-, _, _, -, rfl⟩ := addInlineRule_eq_ok hp'
    simp
  · obtain ⟨-, _, _, -, rfl⟩ := addBlockRule_eq_ok hp'
    simp
  · simp

lemma isSealed_registerAll {plugins : List Plugin} (h : p.registerAll plugins = .ok q) :
    q.isSealed = p.isSealed := by
  induction plugins generalizing p with
  | nil => rw [Except.ok.inj h]
  | cons x plugins ih =>
    rw [Pipeline.registerAll] at h
    split at h
    · cases h
    · rename_i p' hp'
      exact (ih h).trans (isSealed_register hp')

lemma isSealed_new {style : Style} {plugins : List Plugin} (h : new style plugins = .ok p) :
    p.isSealed = false := by
  rw [new] at h
  split at h
  · cases h
  · exact isSealed_registerAll h

lemma isSealed_after (p : Pipeline) (c : Call) : (p.after c).isSealed = (c.isReading || p.isSealed) := by
  cases c with
  | register x =>
    simp only [Pipeline.after, Call.isReading, Bool.false_or]
    cases hx : p.register x with
    | error e => rfl
    | ok q => exact isSealed_register hx
  | parse source => rfl
  | format source => rfl

lemma isSealed_afterAll (p : Pipeline) (calls : List Call) :
    (p.afterAll calls).isSealed = (calls.any Call.isReading || p.isSealed) := by
  induction calls generalizing p with
  | nil => rfl
  | cons c calls ih =>
    rw [Pipeline.afterAll, List.foldl_cons, ← Pipeline.afterAll, ih, isSealed_after, List.any_cons]
    cases c.isReading <;> simp

/-- The rules of two pipelines are the same, in the lists and as they are tried. -/
structure SameRules (p q : Pipeline) : Prop where
  inline : p.inline = q.inline
  block : p.block = q.block
  inlineRules : p.inlineRules = q.inlineRules
  blockRules : p.blockRules = q.blockRules

lemma SameRules.trans {r : Pipeline} (h : SameRules p q) (h' : SameRules q r) : SameRules p r :=
  ⟨h.inline.trans h'.inline, h.block.trans h'.block, h.inlineRules.trans h'.inlineRules,
    h.blockRules.trans h'.blockRules⟩

lemma sameRules_after (hs : p.isSealed = true) (c : Call) : SameRules (p.after c) p := by
  cases c with
  | register x =>
    simp only [Pipeline.after]
    cases hx : p.register x with
    | error e => exact ⟨rfl, rfl, rfl, rfl⟩
    | ok q =>
      rcases register_cases hx with ⟨_, _, _, p', -, -, hp', -⟩ | ⟨_, _, _, p', -, -, hp', -⟩ |
        ⟨-, -, rfl⟩
      · cases hs.symm.trans (addInlineRule_eq_ok hp').1
      · cases hs.symm.trans (addBlockRule_eq_ok hp').1
      · cases x.visitor? <;> exact ⟨rfl, rfl, rfl, rfl⟩
  | parse source => exact ⟨rfl, rfl, rfl, rfl⟩
  | format source => exact ⟨rfl, rfl, rfl, rfl⟩

lemma sameRules_afterAll (hs : p.isSealed = true) (calls : List Call) :
    SameRules (p.afterAll calls) p := by
  induction calls generalizing p with
  | nil => exact ⟨rfl, rfl, rfl, rfl⟩
  | cons c calls ih =>
    have hc : (p.after c).isSealed = true := by rw [isSealed_after, hs, Bool.or_true]
    exact (ih hc).trans (sameRules_after hs c)

/-! ### Answers -/

/-- Which answer the registration of a rule gets on a side whose list is `l`. -/
structure Verdict (hasRead : Prop) (side : RuleSide) (l : RuleList) (name before : Bytes)
    (answer : Except PipelineError Pipeline) : Prop where
  isSealed : answer = .error .isSealed ↔ hasRead
  duplicate : ¬ hasRead → (answer = .error (.rule side (.duplicate name)) ↔ name ∈ l.names)
  unknown : ¬ hasRead → name ∉ l.names → before ≠ [] →
    (answer = .error (.rule side (.unknown before)) ↔ before ∉ l.names)
  noPriority : ¬ hasRead → name ∉ l.names → before ≠ [] → before ∈ l.names →
    ((∃ low high, answer = .error (.rule side (.noPriority low high name))) ↔ l.Crowded before)
  accepted : (∃ q, answer = .ok q) ↔
    ¬ hasRead ∧ name ∉ l.names ∧ (before = [] ∨ before ∈ l.names ∧ ¬ l.Crowded before)

lemma verdict_of_insert {l : RuleList} (hl : l.names.Nodup) (isSealed : Bool) (side : RuleSide)
    (name before triggers : Bytes) (extend : RuleList × Int → Pipeline) :
    Verdict (isSealed = true) side l name before
      (if isSealed then .error .isSealed
        else match l.insert name before triggers with
          | .error e => .error (.rule side e)
          | .ok r => .ok (extend r)) := by
  cases isSealed with
  | true => exact ⟨by simp, by simp, by simp, by simp, by simp⟩
  | false =>
    rcases RuleList.insert_cases hl name before triggers with ⟨hn, he⟩ | ⟨hn, hb, hm, he⟩ |
      ⟨hn, hb, hm, hc, low, high, he⟩ | ⟨hn, hc, l', priority, he, -⟩
    · rw [he]
      exact ⟨by simp, by simp [hn], by simp [hn], by simp [hn], by simp [hn]⟩
    · rw [he]
      exact ⟨by simp, by simp [hn], by simp [hm], by simp [hm], by simp [hb, hm]⟩
    · rw [he]
      exact ⟨by simp, by simp [hn], by simp [hm], by simp [hc], by simp [hb, hm, hc]⟩
    · rw [he]
      refine ⟨by simp, by simp [hn], ?_, ?_, by simp [hn, hc]⟩
      · intro _ _ hb
        simpa using (hc.resolve_left hb).1
      · intro _ _ hb _
        simpa using (hc.resolve_left hb).2

lemma verdict_inline (h : p.inline.names.Nodup) (name before : Bytes) (rule : InlineRule) :
    Verdict (p.isSealed = true) .inline p.inline name before (p.addInlineRule name rule before) := by
  have hv := verdict_of_insert h p.isSealed .inline name before rule.triggers fun r =>
    { p with inline := r.1, inlineRules := p.inlineRules ++ [⟨r.2, rule⟩] }
  rw [addInlineRule]
  cases hi : p.inline.insert name before rule.triggers <;> rwa [hi] at hv

lemma verdict_block (h : p.block.names.Nodup) (name before : Bytes) (rule : BlockRule) :
    Verdict (p.isSealed = true) .block p.block name before (p.addBlockRule name rule before) := by
  have hv := verdict_of_insert h p.isSealed .block name before [] fun r =>
    { p with block := r.1, blockRules := p.blockRules ++ [⟨r.2, rule⟩] }
  rw [addBlockRule]
  cases hi : p.block.insert name before [] <;> rwa [hi] at hv

lemma after_of_error {x : Plugin} {e : PipelineError} (h : p.register x = .error e) :
    p.after (.register x) = p := by
  simp only [Pipeline.after, h, Except.toOption, Option.getD_none]

lemma after_of_ok {x : Plugin} (h : p.register x = .ok q) : p.after (.register x) = q := by
  simp only [Pipeline.after, h, Except.toOption, Option.getD_some]

/-- On every pipeline that calls led to, the state of one list decides whether a rule is taken and, if
not, why. A refused call leaves everything as it was; an accepted one puts one entry into that list and
one rule behind those registered. Once a document was read, the rules stay as they are. -/
theorem registration_all_or_nothing {style : Style} {plugins : List Plugin}
    (h : new style plugins = .ok p) (calls : List Call) :
    let q := p.afterAll calls
    let hasRead := ∃ c ∈ calls, c.isReading = true
    (∀ name before rule,
      Verdict hasRead .inline q.inline name before (q.addInlineRule name rule before)) ∧
    (∀ name before rule,
      Verdict hasRead .block q.block name before (q.addBlockRule name rule before)) ∧
    (∀ x e, q.register x = .error e → q.after (.register x) = q) ∧
    (∀ name before rule r, q.addInlineRule name rule before = .ok r →
      q.after (.register (.inlineRule name rule before)) = r ∧
      ∃ l priority, q.inline.Inserted ⟨name, priority, rule.triggers⟩ before l ∧
        r = { q with inline := l, inlineRules := q.inlineRules ++ [⟨priority, rule⟩] }) ∧
    (∀ name before rule r, q.addBlockRule name rule before = .ok r →
      q.after (.register (.blockRule name rule before)) = r ∧
      ∃ l priority, q.block.Inserted ⟨name, priority, []⟩ before l ∧
        r = { q with block := l, blockRules := q.blockRules ++ [⟨priority, rule⟩] }) ∧
    (hasRead → ∀ more, (q.afterAll more).isSealed = true ∧ SameRules (q.afterAll more) q) := by
  intro q hasRead
  have hnodup := ((reached_of_new h).afterAll calls).nodup
  have hsealed : q.isSealed = true ↔ hasRead := by
    rw [isSealed_afterAll, isSealed_new h, Bool.or_false, List.any_eq_true]
  rw [← hsealed]
  refine ⟨verdict_inline hnodup.1, verdict_block hnodup.2, fun x e => after_of_error, ?_, ?_, ?_⟩
  · intro name before rule r hr
    obtain ⟨-, l, priority, hl, he⟩ := addInlineRule_eq_ok hr
    exact ⟨after_of_ok (x := .inlineRule name rule before) hr, l, priority,
      (inserted_of_insert hnodup.1 hl).2, he⟩
  · intro name before rule r hr
    obtain ⟨-, l, priority, hl, he⟩ := addBlockRule_eq_ok hr
    exact ⟨after_of_ok (x := .blockRule name rule before) hr, l, priority,
      (inserted_of_insert hnodup.2 hl).2, he⟩
  · intro hs more
    exact ⟨by rw [isSealed_afterAll, hs, Bool.or_true], sameRules_afterAll hs more⟩

/-- With alerts, no rule goes between emphasis and strikethrough, and after a document was read none goes
anywhere. -/
theorem registration_all_or_nothing_alerts :
    ∃ p, new {} [.alerts] = .ok p ∧
      (∃ low high, p.addInlineRule (utf8 "x") .alert (utf8 "strikethrough") =
        .error (.rule .inline (.noPriority low high (utf8 "x")))) ∧
      (p.afterAll [.format (utf8 "a")]).addBlockRule (utf8 "x") .html [] = .error .isSealed := by
  have hlist : ((new {} [.alerts]).toOption.map (·.inline)).map (fun l => (l.names, l.drop 7)) =
      some ([utf8 "taskCheckBox", utf8 "code", utf8 "footnote", utf8 "alert", utf8 "link",
        utf8 "autolink", utf8 "html", utf8 "emphasis", utf8 "strikethrough"],
        [⟨utf8 "emphasis", 500, utf8 "*_"⟩, ⟨utf8 "strikethrough", 500, utf8 "~"⟩]) := by decide +kernel
  cases hp : new {} [.alerts] with
  | error e =>
    rw [hp] at hlist
    cases hlist
  | ok p =>
    rw [hp] at hlist
    simp only [Except.toOption, Option.map_some, Option.some.injEq, Prod.mk.injEq] at hlist
    have hcrowded : p.inline.Crowded (utf8 "strikethrough") :=
      ⟨p.inline.take 7, _, _, [], by rw [← hlist.2, List.take_append_drop], rfl, by decide⟩
    refine ⟨p, rfl, ?_, ?_⟩
    · have hv := (registration_all_or_nothing hp []).1 (utf8 "x") (utf8 "strikethrough") .alert
      refine (hv.noPriority (by simp) ?_ (by decide) ?_).mpr hcrowded
      · rw [show p.afterAll [] = p from rfl, hlist.1]
        decide +kernel
      · rw [show p.afterAll [] = p from rfl, hlist.1]
        decide +kernel
    · have hv := (registration_all_or_nothing hp [.format (utf8 "a")]).2.1 (utf8 "x") [] .html
      exact hv.isSealed.mpr ⟨_, List.mem_singleton_self _, rfl⟩

end Pipeline

end MarkdownTidy
