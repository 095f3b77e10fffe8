import MarkdownTidy.Formatter
import MarkdownTidy.Proofs.Document.TextNames
import MarkdownTidy.Proofs.Pipeline.Registration
import MarkdownTidy.Proofs.Plain.Rules

/-! Formatters that share one set of names. Whatever was built and formatted before, a formatter gives the
answers it would give in a process of its own. -/

namespace MarkdownTidy

open Shortcode (SameAnswer)

/-! ### Pipelines -/

lemma Pipeline.format_sameAnswer (p : Pipeline) {m n : MarkdownAttributes} (hm : m.spread = true)
    (hn : n.spread = true) (source : Bytes) : SameAnswer (p.format m source) (p.format n source) := by
  have hread := (readDocument_alike p.grammar hm hn source).2
  obtain ⟨hdoc, hm', hn'⟩ := parseDocument_sameAnswer p.grammar hm hn source
  have hoverrun : (readDocument p.grammar n source).overrun? = (readDocument p.grammar m source).overrun? := by
    rw [hread]
  rw [Pipeline.format, Pipeline.format]
  simp only [hoverrun]
  split
  · exact ⟨rfl, hm', hn'⟩
  · exact ⟨congrArg (fun d => (Writer.write p.style p.visitors source d).mapError PipelineError.visitor) hdoc, hm', hn'⟩

def InlineRule.source? : InlineRule → Option ShortcodeSource
  | shortcode s => some s
  | _ => none

def BlockRule.source? : BlockRule → Option ShortcodeSource
  | shortcode s => some s
  | _ => none

namespace Pipeline

def sources (p : Pipeline) : List ShortcodeSource :=
  p.inlineRules.filterMap (·.value.source?) ++ p.blockRules.filterMap (·.value.source?)

lemma sources_addInlineRule {p q : Pipeline} {name before : Bytes} {rule : InlineRule}
    (h : p.addInlineRule name rule before = .ok q) :
    ∀ s ∈ q.sources, s ∈ p.sources ∨ rule.source? = some s := by
  rw [addInlineRule] at h
  split at h
  · cases h
  · split at h
    · cases h
    · cases h
      intro s hs
      simp only [sources, List.filterMap_append, List.mem_append] at hs ⊢
      rcases hs with (hs | hs) | hs
      · exact Or.inl (Or.inl hs)
      · exact Or.inr (by simpa using hs)
      · exact Or.inl (Or.inr hs)

lemma sources_addBlockRule {p q : Pipeline} {name before : Bytes} {rule : BlockRule}
    (h : p.addBlockRule name rule before = .ok q) :
    ∀ s ∈ q.sources, s ∈ p.sources ∨ rule.source? = some s := by
  rw [addBlockRule] at h
  split at h
  · cases h
  · split at h
    · cases h
    · cases h
      intro s hs
      simp only [sources, List.filterMap_append, List.mem_append] at hs ⊢
      rcases hs with hs | hs | hs
      · exact Or.inl (Or.inl hs)
      · exact Or.inl (Or.inr hs)
      · exact Or.inr (by simpa using hs)

end Pipeline

def Plugin.sources : Plugin → List ShortcodeSource
  | inlineRule _ r _ => r.source?.toList
  | blockRule _ r _ => r.source?.toList
  | shortcodes s _ => [s]
  | _ => []

namespace Pipeline

lemma sources_register {p q : Pipeline} {x : Plugin} (h : p.register x = .ok q) :
    ∀ s ∈ q.sources, s ∈ p.sources ∨ s ∈ x.sources := by
  cases x with
  | inlineRule name rule before =>
    simpa only [Plugin.sources, Option.mem_toList] using sources_addInlineRule h
  | blockRule name rule before =>
    simpa only [Plugin.sources, Option.mem_toList] using sources_addBlockRule h
  | visitor kind v =>
    cases h
    exact fun s hs => Or.inl hs
  | shortcodes source inline =>
    have hadd : ∃ p' : Pipeline, p'.sources = q.sources ∧
        ∀ s ∈ p'.sources, s ∈ p.sources ∨ some source = some s := by
      cases inline with
      | true =>
        obtain ⟨p', hp', hq⟩ := exists_of_bind_eq_ok h
        cases hq
        exact ⟨p', rfl, sources_addInlineRule hp'⟩
      | false =>
        obtain ⟨p', hp', hq⟩ := exists_of_bind_eq_ok h
        cases hq
        exact ⟨p', rfl, sources_addBlockRule hp'⟩
    obtain ⟨p', hp', hs⟩ := hadd
    rw [← hp']
    exact fun s h => (hs s h).imp_right fun he => List.mem_singleton.mpr (Option.some.inj he).symm
  | alerts =>
    obtain ⟨p', hp', hq⟩ := exists_of_bind_eq_ok h
    cases hq
    exact fun s hs => Or.inl ((sources_addInlineRule hp' s hs).resolve_right nofun)
  | attributeList =>
    obtain ⟨p', hp', hq⟩ := exists_of_bind_eq_ok h
    cases hq
    exact fun s hs => Or.inl ((sources_addInlineRule hp' s hs).resolve_right nofun)

lemma sources_registerAll {p q : Pipeline} {plugins : List Plugin}
    (h : p.registerAll plugins = .ok q) :
    ∀ s ∈ q.sources, s ∈ p.sources ∨ ∃ x ∈ plugins, s ∈ x.sources := by
  induction plugins generalizing p with
  | nil =>
    cases h
    exact fun s hs => Or.inl hs
  | cons x plugins ih =>
    rw [registerAll] at h
    split at h
    · cases h
    · rename_i p' hp'
      intro s hs
      rcases ih h s hs with hs | ⟨y, hy, hs⟩
      · exact (sources_register hp' s hs).imp_right fun hs => ⟨x, List.mem_cons_self, hs⟩
      · exact Or.inr ⟨y, List.mem_cons_of_mem x hy, hs⟩

lemma sources_new {style : Style} {plugins : List Plugin} {p : Pipeline}
    (h : new style plugins = .ok p) : ∀ s ∈ p.sources, ∃ x ∈ plugins, s ∈ x.sources := by
  rw [new] at h
  split at h
  · cases h
  · exact fun s hs => (sources_registerAll h s hs).resolve_left (by simp [show
      (bare style).sources = [] from rfl])

end Pipeline

/-! ### Formatters -/

def Formatted.answer (x : Formatted) : Except FormatError Bytes × List Bytes := (x.result, x.log)

namespace Formatter

lemma new_fst (config : Config) (m n : MarkdownAttributes) : (new config m).1 = (new config n).1 := by
  have hset : (config.shortcodes.attributeSet m).1 = (config.shortcodes.attributeSet n).1 := by
    simp only [ShortcodeSettings.attributeSet]
    split <;> rfl
  simp only [new]
  cases Pipeline.new config.style [.alerts, .attributeList] with
  | error e => rfl
  | ok text =>
    simp only [hset]
    cases Pipeline.new config.style _ <;> rfl

lemma spread_new (config : Config) {m : MarkdownAttributes} (hm : m.spread = true) :
    (new config m).2.spread = true := by
  have hset : (config.shortcodes.attributeSet m).2.spread = true := by
    simp only [ShortcodeSettings.attributeSet]
    split <;> exact hm
  simp only [new]
  cases Pipeline.new config.style [.alerts, .attributeList] with
  | error e => exact hm
  | ok text =>
    simp only
    cases Pipeline.new config.style _ <;> exact hset

lemma new_spec {config : Config} {m : MarkdownAttributes} {f : Formatter}
    (h : (new config m).1 = .ok f) :
    f.config = config ∧
      ∀ s ∈ f.document.sources, s.own = (config.shortcodes.attributeSet m).1 := by
  rw [new] at h
  split at h
  · cases h
  · simp only at h
    split at h
    · cases h
    · rename_i document hd
      cases h
      refine ⟨rfl, fun s hs => ?_⟩
      obtain ⟨x, hx, hs⟩ := Pipeline.sources_new hd s hs
      simp only [List.mem_cons, List.not_mem_nil, or_false] at hx
      rcases hx with rfl | rfl | rfl
      · rw [List.mem_singleton.mp hs]
      · cases hs
      · cases hs

lemma formatBody_sameAnswer (f : Formatter) {m n : MarkdownAttributes} (hm : m.spread = true)
    (hn : n.spread = true) (src : Bytes) : SameAnswer (f.formatBody m src) (f.formatBody n src) := by
  have h := f.document.format_sameAnswer hm hn (Punctuation.escape src)
  revert h
  rw [formatBody, formatBody]
  rcases f.document.format m (Punctuation.escape src) with ⟨x, m'⟩
  rcases f.document.format n (Punctuation.escape src) with ⟨y, n'⟩
  rintro ⟨rfl, hm', hn'⟩
  exact ⟨rfl, hm', hn'⟩

def SameFormatted (x y : Formatted) : Prop :=
  x.answer = y.answer ∧ x.names.spread = true ∧ y.names.spread = true

lemma format_sameFormatted (f : Formatter) {m n : MarkdownAttributes} (hm : m.spread = true)
    (hn : n.spread = true) (patience : Patience) (src : Bytes) :
    SameFormatted (f.format m patience src) (f.format n patience src) := by
  rw [format, format]
  split
  · exact ⟨rfl, hm, hn⟩
  · cases patience.spend with
    | none => exact ⟨rfl, hm, hn⟩
    | some patience =>
      rcases formatFrontMatter src with ⟨head, body, log⟩
      simp only
      cases patience.spend with
      | none => exact ⟨rfl, hm, hn⟩
      | some patience =>
        have h := f.formatBody_sameAnswer hm hn body
        revert h
        simp only
        rcases f.formatBody m body with ⟨x, m'⟩
        rcases f.formatBody n body with ⟨y, n'⟩
        rintro ⟨rfl, hm', hn'⟩
        exact ⟨rfl, hm', hn'⟩

lemma formatRange_sameFormatted (f : Formatter) {m n : MarkdownAttributes} (hm : m.spread = true)
    (hn : n.spread = true) (patience : Patience) (src : Bytes) (r : LineRange) :
    SameFormatted (f.formatRange m patience src r) (f.formatRange n patience src r) := by
  rw [formatRange, formatRange]
  simp only
  split
  · exact ⟨rfl, hm, hn⟩
  · split
    · exact ⟨rfl, hm, hn⟩
    · cases patience.spend with
      | none => exact ⟨rfl, hm, hn⟩
      | some patience =>
        have h := f.formatBody_sameAnswer hm hn
          ((((Bytes.lines src).take r.last.toNat).drop (r.first.toNat - 1)).flatten)
        revert h
        simp only
        rcases f.formatBody m _ with ⟨x, m'⟩
        rcases f.formatBody n _ with ⟨y, n'⟩
        rintro ⟨rfl, hm', hn'⟩
        exact ⟨rfl, hm', hn'⟩

end Formatter

/-! ### Processes -/

/-- Something done with the formatters of a process. Formatters are named by the order they were built
in. -/
inductive Operation where
  | build (config : Config)
  | format (formatter : Nat) (patience : Patience) (src : Bytes)
  | formatRange (formatter : Nat) (patience : Patience) (src : Bytes) (r : LineRange)
  | tidyText (formatter : Nat) (s : Bytes)

structure Process where
  names : MarkdownAttributes
  formatters : List Formatter

namespace Process

def step (p : Process) : Operation → Process
  | .build config =>
    match Formatter.new config p.names with
    | (.ok f, names) => ⟨names, p.formatters ++ [f]⟩
    | (.error _, names) => { p with names := names }
  | .format i patience src =>
    match p.formatters[i]? with
    | some f => { p with names := (f.format p.names patience src).names }
    | none => p
  | .formatRange i patience src r =>
    match p.formatters[i]? with
    | some f => { p with names := (f.formatRange p.names patience src r).names }
    | none => p
  | .tidyText i s =>
    match p.formatters[i]? with
    | some f => { p with names := (f.text.format p.names s).2 }
    | none => p

def run (p : Process) (ops : List Operation) : Process := ops.foldl step p

structure Sound (p : Process) : Prop where
  spread : p.names.spread = true
  built : ∀ f ∈ p.formatters, (Formatter.new f.config .initial).1 = .ok f

lemma Sound.step {p : Process} (h : p.Sound) (op : Operation) : (p.step op).Sound := by
  cases op with
  | build config =>
    have hs := Formatter.spread_new config h.spread
    have hnew := Formatter.new_fst config p.names .initial
    simp only [Process.step]
    rcases he : Formatter.new config p.names with ⟨e | f, names⟩
    · rw [he] at hs
      exact ⟨hs, h.built⟩
    · rw [he] at hs hnew
      refine ⟨hs, fun f' hf' => ?_⟩
      rcases List.mem_append.mp hf' with hf' | hf'
      · exact h.built f' hf'
      · rw [List.mem_singleton.mp hf', (Formatter.new_spec hnew.symm).1]
        exact hnew.symm
  | format i patience src =>
    simp only [Process.step]
    cases p.formatters[i]? with
    | none => exact h
    | some f => exact ⟨(f.format_sameFormatted h.spread h.spread patience src).2.1, h.built⟩
  | formatRange i patience src r =>
    simp only [Process.step]
    cases p.formatters[i]? with
    | none => exact h
    | some f => exact ⟨(f.formatRange_sameFormatted h.spread h.spread patience src r).2.1, h.built⟩
  | tidyText i s =>
    simp only [Process.step]
    cases p.formatters[i]? with
    | none => exact h
    | some f => exact ⟨(f.text.format_sameAnswer h.spread h.spread s).2.1, h.built⟩

lemma Sound.run {p : Process} (h : p.Sound) (ops : List Operation) : (p.run ops).Sound := by
  induction ops generalizing p with
  | nil => exact h
  | cons op ops ih => exact ih (h.step op)

/-- After any operations on a process that began with any names, building a formatter gives what it gives
in a new process, and every formatter built so far answers a caller who is not impatient as one newly
built in a new process does. What a fixed set holds is never changed by reading a shortcode. -/
theorem answers_eq_fresh (names : List Bytes) (ops : List Operation) :
    let p := run ⟨⟨true, names⟩, []⟩ ops
    (∀ config, (Formatter.new config p.names).1 = (Formatter.new config .initial).1) ∧
      ∀ f ∈ p.formatters, ∃ fresh shared, Formatter.new f.config .initial = (.ok fresh, shared) ∧
        (∀ src, (f.format p.names none src).answer = (fresh.format shared none src).answer) ∧
        (∀ src r, (f.formatRange p.names none src r).answer =
          (fresh.formatRange shared none src r).answer) ∧
        ∀ s ∈ f.document.sources, ∀ own, s.own = some own →
          ∀ value, (s.reader.tokenize? own value).2 = own := by
  intro p
  have hp : p.Sound := Sound.run (p := ⟨⟨true, names⟩, []⟩) ⟨rfl, by simp⟩ ops
  refine ⟨fun config => Formatter.new_fst config p.names .initial, fun f hf => ?_⟩
  have hfresh := hp.built f hf
  have hshared : (Formatter.new f.config .initial).2.spread = true := Formatter.spread_new _ rfl
  refine ⟨f, (Formatter.new f.config .initial).2, Prod.ext hfresh rfl, ?_, ?_, ?_⟩
  · exact fun src => (f.format_sameFormatted hp.spread hshared none src).1
  · exact fun src r => (f.formatRange_sameFormatted hp.spread hshared none src r).1
  · intro s hs own hown value
    rw [(Formatter.new_spec hfresh).2 s hs, ShortcodeSettings.attributeSet] at hown
    split at hown
    · cases hown
    · obtain rfl := Option.some.inj hown
      exact Shortcode.tokenize?_fixed s.reader rfl value

/-- A process with two formatters, the second with a fixed set, after a shortcode was read, a range was
refused and a caller went away. -/
def used : Process :=
  run ⟨⟨true, [utf8 "rel"]⟩, []⟩
    [.build {}, .build { shortcodes := { spreadMarkdownAttributes := false } },
      .format 0 none (utf8 "\x7b\x7b< x cite=\"*a*\" >\x7d\x7d\n"),
      .formatRange 1 none (utf8 "a\n") ⟨2, 1⟩, .format 1 (some 1) (utf8 "a\n")]

theorem answers_eq_fresh_used :
    ∃ f ∈ used.formatters, f.config.shortcodes.spreadMarkdownAttributes = false ∧
      used.names ≠ .initial ∧
      (∃ fresh shared, Formatter.new f.config .initial = (.ok fresh, shared) ∧
        ∀ src, (f.format used.names none src).answer = (fresh.format shared none src).answer) ∧
      ∃ s ∈ f.document.sources, ∃ own, s.own = some own ∧
        (s.reader.tokenize? own (utf8 "\x7b\x7b< x cite=\"*a*\" >\x7d\x7d")).2 = own := by
  have hsome : (used.formatters[1]?).isSome = true := by decide +kernel
  have hconfig : (used.formatters[1]?).map (·.config.shortcodes.spreadMarkdownAttributes) =
      some false := by decide +kernel
  have hsource : ((used.formatters[1]?).bind (·.document.sources.head?)).map (·.own) =
      some (some (.new false MarkdownAttributes.defaultNames)) := by decide +kernel
  obtain ⟨f, hf⟩ := Option.isSome_iff_exists.mp hsome
  rw [hf] at hconfig hsource
  obtain ⟨s, hs, hown⟩ := Option.map_eq_some_iff.mp hsource
  have hmem : s ∈ f.document.sources := List.mem_of_mem_head? hs
  obtain ⟨fresh, shared, hnew, hformat, -, hfixed⟩ :=
    (answers_eq_fresh [utf8 "rel"] _).2 f (List.mem_of_getElem? hf)
  exact ⟨f, List.mem_of_getElem? hf, Option.some.inj hconfig, by decide +kernel,
    ⟨fresh, shared, hnew, hformat⟩, s, hmem, _, hown, hfixed s hmem _ hown _⟩

end Process

end MarkdownTidy
