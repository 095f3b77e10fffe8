import MarkdownTidy.Proofs.Pipeline.Registration
import Mathlib.Data.List.Sort
import Mathlib.Logic.Equiv.Basic

/-! The order in which a pipeline tries its rules is the order of its named lists. -/

namespace MarkdownTidy

namespace Prioritized

variable {α β : Type}

def Sorted (l : List (Prioritized α)) : Prop := l.Pairwise fun a b => a.priority ≤ b.priority

def rule (r : Prioritized (Bytes × α)) : Prioritized α := ⟨r.priority, r.value.2⟩

lemma place_perm (p : Prioritized α) (l : List (Prioritized α)) : (place p l).Perm (p :: l) := by
  induction l with
  | nil => exact .refl _
  | cons q l ih =>
    rw [place]
    split
    · exact (ih.cons q).trans (.swap p q l)
    · exact .refl _

lemma Sorted.place {l : List (Prioritized α)} (h : Sorted l) (p : Prioritized α) :
    Sorted (p.place l) := by
  induction l with
  | nil => exact List.pairwise_singleton _ p
  | cons q l ih =>
    obtain ⟨hq, hl⟩ := List.pairwise_cons.mp h
    rw [Prioritized.place]
    split
    · rename_i hle
      refine List.pairwise_cons.mpr ⟨fun r hr => ?_, ih hl⟩
      rcases List.mem_cons.mp ((place_perm p l).mem_iff.mp hr) with rfl | hr
      · exact hle
      · exact hq r hr
    · rename_i hlt
      have hlt : p.priority ≤ q.priority := by omega
      refine List.pairwise_cons.mpr ⟨fun r hr => ?_, h⟩
      rcases List.mem_cons.mp hr with rfl | hr
      · exact hlt
      · exact hlt.trans (hq r hr)

lemma map_rule_place (p : Prioritized (Bytes × α)) (l : List (Prioritized (Bytes × α))) :
    (place p l).map rule = place p.rule (l.map rule) := by
  induction l with
  | nil => rfl
  | cons q l ih =>
    rw [place, List.map_cons, place]
    by_cases hle : q.priority ≤ p.priority
    · rw [if_pos hle, if_pos (show q.rule.priority ≤ p.rule.priority from hle), List.map_cons, ih]
    · rw [if_neg hle, if_neg (show ¬ q.rule.priority ≤ p.rule.priority from hle)]
      rfl

lemma exists_inOrder (named : List (Prioritized (Bytes × α))) :
    ∃ s, s.Perm named ∧ Sorted s ∧ s.map (·.value.2) = inOrder (named.map rule) := by
  have hfold : ∀ acc : List (Prioritized (Bytes × α)), Sorted acc →
      ∃ s, s.Perm (acc ++ named) ∧ Sorted s ∧
        s.map rule = (named.map rule).foldl (fun acc p => place p acc) (acc.map rule) := by
    induction named with
    | nil => exact fun acc h => ⟨acc, by simp, h, rfl⟩
    | cons p named ih =>
      intro acc h
      obtain ⟨s, hs, hsort, hmap⟩ := ih (p.place acc) (h.place p)
      refine ⟨s, hs.trans ?_, hsort, ?_⟩
      · exact ((place_perm p acc).append_right named).trans List.perm_middle.symm
      · rw [hmap, map_rule_place]
        rfl
  obtain ⟨s, hs, hsort, hmap⟩ := hfold [] List.Pairwise.nil
  refine ⟨s, hs, hsort, ?_⟩
  rw [inOrder, ← List.map_nil (f := rule), ← hmap, List.map_map]
  rfl

end Prioritized

/-! ### Lists that mirror what was registered -/

namespace RuleList

variable {α : Type} {tied : Bytes → Bytes → Prop} {l l' : RuleList}
  {named s : List (Prioritized (Bytes × α))} {name before triggers : Bytes} {priority : Int}

/-- A list has the names and priorities of the registered rules, in ascending order of priority. Two
rules have the same priority only if their names are tied. -/
structure Mirrors (tied : Bytes → Bytes → Prop) (l : RuleList)
    (named : List (Prioritized (Bytes × α))) : Prop where
  distinct : l.names.Nodup
  increasing : l.Pairwise fun a b =>
    a.priority < b.priority ∨ tied a.name b.name ∧ a.priority = b.priority
  registered :
    (named.map fun r => (r.value.1, r.priority)).Perm (l.map fun e => (e.name, e.priority))

lemma Mirrors.pairwise_le (h : Mirrors tied l named) : l.Pairwise (·.priority ≤ ·.priority) :=
  h.increasing.imp fun hab => hab.elim Int.le_of_lt fun he => Int.le_of_eq he.2

lemma lt_of_getLast? (h : l.Pairwise (·.priority ≤ ·.priority))
    (hl : ∀ r ∈ l.getLast?, r.priority < priority) : ∀ a ∈ l, a.priority < priority := by
  intro a ha
  rcases List.eq_nil_or_concat l with rfl | ⟨k, r, rfl⟩
  · cases ha
  · rw [List.concat_eq_append] at h hl ha
    have hr : r.priority < priority := hl r (by simp)
    rcases List.mem_append.mp ha with ha | ha
    · have hle := (List.pairwise_append.mp h).2.2 a ha r (List.mem_singleton_self r)
      exact Int.lt_of_le_of_lt hle hr
    · rwa [List.mem_singleton.mp ha]

lemma lt_of_head? (h : l.Pairwise (·.priority ≤ ·.priority))
    (hl : ∀ r ∈ l.head?, priority < r.priority) : ∀ a ∈ l, priority < a.priority := by
  intro a ha
  cases l with
  | nil => cases ha
  | cons r l =>
    have hr : priority < r.priority := hl r rfl
    rcases List.mem_cons.mp ha with rfl | ha
    · exact hr
    · exact Int.lt_of_lt_of_le hr ((List.pairwise_cons.mp h).1 a ha)

lemma Mirrors.inserted (h : Mirrors tied l named) (hn : name ∉ l.names)
    (hi : l.Inserted ⟨name, priority, triggers⟩ before l') (rule : α) :
    Mirrors tied l' (named ++ [⟨priority, (name, rule)⟩]) := by
  refine ⟨Pipeline.nodup_of_inserted h.distinct hn hi, ?_, ?_⟩
  · obtain ⟨l₁, l₂, rfl, rfl, hlow, hhigh, -⟩ := hi
    have hle := List.pairwise_append.mp h.pairwise_le
    have hinc := List.pairwise_append.mp h.increasing
    have hbelow := lt_of_getLast? hle.1 hlow
    have habove := lt_of_head? hle.2.1 hhigh
    refine List.pairwise_append.mpr ⟨hinc.1, List.pairwise_cons.mpr ⟨?_, hinc.2.1⟩, ?_⟩
    · exact fun b hb => .inl (habove b hb)
    · intro a ha b hb
      rcases List.mem_cons.mp hb with rfl | hb
      · exact .inl (hbelow a ha)
      · exact hinc.2.2 a ha b hb
  · obtain ⟨l₁, l₂, rfl, rfl, -⟩ := hi
    rw [List.map_append, List.map_append, List.map_cons]
    refine (List.perm_append_singleton _ _).trans (.trans (h.registered.cons _) ?_)
    rw [List.map_append]
    exact List.perm_middle.symm

lemma Mirrors.map_names_eq (h : Mirrors tied l named) {f : Bytes → Bytes}
    (hf : ∀ a b, tied a b → f a = f b) (hp : s.Perm named) (hs : Prioritized.Sorted s) :
    s.map (fun r => f r.value.1) = l.names.map f := by
  let mark (e : Bytes × Int) : Bytes × Int := (f e.1, e.2)
  -- Entries of one priority have the same mark, so only one sorted list has these marks.
  have hinj : ∀ a ∈ l, ∀ b ∈ l, a.priority = b.priority → f a.name = f b.name := by
    have hpair : l.Pairwise fun a b => a.priority = b.priority → f a.name = f b.name :=
      h.increasing.imp fun hab he => hab.elim (fun hlt => absurd he (Int.ne_of_lt hlt))
        fun ht => hf _ _ ht.1
    have hflip : l.Pairwise (flip fun a b => a.priority = b.priority → f a.name = f b.name) :=
      hpair.imp fun hab he => (hab he.symm).symm
    exact fun a ha b hb => hpair.forall_of_forall_of_flip (fun _ _ _ => rfl) hflip ha hb
  have hperm : (s.map fun r => mark (r.value.1, r.priority)).Perm
      (l.map fun e => mark (e.name, e.priority)) := by
    have hmap := ((hp.map fun r => (r.value.1, r.priority)).trans h.registered).map mark
    rwa [List.map_map, List.map_map] at hmap
  have hanti : ∀ a b : Bytes × Int, a ∈ s.map (fun r => mark (r.value.1, r.priority)) →
      b ∈ l.map (fun e => mark (e.name, e.priority)) → a.2 ≤ b.2 → b.2 ≤ a.2 → a = b := by
    intro a b ha hb hab hba
    obtain ⟨x, hx, rfl⟩ := List.mem_map.mp (hperm.mem_iff.mp ha)
    obtain ⟨y, hy, rfl⟩ := List.mem_map.mp hb
    have he : x.priority = y.priority := Int.le_antisymm hab hba
    exact Prod.ext (hinj x hx y hy he) he
  have heq := List.Perm.eq_of_pairwise hanti (List.pairwise_map.mpr hs)
    (List.pairwise_map.mpr h.pairwise_le) hperm
  have hfst := congrArg (List.map Prod.fst) heq
  rw [List.map_map, List.map_map] at hfst
  rw [names, List.map_map]
  exact hfst

lemma map_swap_eq_self {a b y : Bytes} {l : List Bytes} (h : Equiv.swap a b y ≠ y) (hy : y ∉ l)
    (hs : Equiv.swap a b y ∉ l) : l.map (Equiv.swap a b) = l := by
  rw [Equiv.swap_apply_ne_self_iff] at h
  have hab : a ∉ l ∧ b ∉ l := by
    rcases h.2 with rfl | rfl
    · exact ⟨hy, by rwa [Equiv.swap_apply_left] at hs⟩
    · exact ⟨by rwa [Equiv.swap_apply_right] at hs, hy⟩
  refine (List.map_congr_left fun z hz => ?_).trans (List.map_id l)
  exact Equiv.swap_apply_of_ne_of_ne (ne_of_mem_of_not_mem hz hab.1) (ne_of_mem_of_not_mem hz hab.2)

lemma eq_or_eq_map_swap {a b : Bytes} {s l : List Bytes} (hs : s.Nodup) (hl : l.Nodup)
    (h : List.Forall₂ (fun x y => x = y ∨ x = Equiv.swap a b y) s l) :
    s = l ∨ s = l.map (Equiv.swap a b) := by
  induction h with
  | nil => exact .inl rfl
  | @cons x y s l hxy _ ih =>
    obtain ⟨hx, hs'⟩ := List.nodup_cons.mp hs
    obtain ⟨hy, hl'⟩ := List.nodup_cons.mp hl
    rw [List.map_cons]
    by_cases hfix : Equiv.swap a b y = y
    · have he : x = y := hxy.elim id fun he => he.trans hfix
      rw [hfix, he]
      exact (ih hs' hl').imp (congrArg _) (congrArg _)
    · rcases hxy with rfl | rfl
      · refine (ih hs' hl').elim (fun he => .inl (congrArg _ he)) fun he => .inl ?_
        have hm : Equiv.swap a b x ∉ l := fun hm =>
          hx (he ▸ List.mem_map.mpr ⟨_, hm, Equiv.swap_apply_self a b x⟩)
        rw [he, map_swap_eq_self hfix hy hm]
      · refine (ih hs' hl').elim (fun he => .inr ?_) fun he => .inr (congrArg _ he)
        rw [map_swap_eq_self hfix hy (he ▸ hx), he]

lemma Mirrors.names_nodup (h : Mirrors tied l named) (hp : s.Perm named) :
    (s.map (·.value.1)).Nodup := by
  have hperm := ((hp.map fun r => (r.value.1, r.priority)).trans h.registered).map Prod.fst
  rw [List.map_map, List.map_map] at hperm
  exact hperm.nodup_iff.mpr h.distinct

lemma Mirrors.names_of_sorted (h : Mirrors (fun _ _ => False) l named) (hp : s.Perm named)
    (hs : Prioritized.Sorted s) : s.map (·.value.1) = l.names := by
  have hnames := h.map_names_eq (f := id) (fun _ _ => False.elim) hp hs
  rwa [List.map_id] at hnames

lemma Mirrors.names_of_sorted_tied {a b : Bytes} (h : Mirrors (fun x y => x = a ∧ y = b) l named)
    (hp : s.Perm named) (hs : Prioritized.Sorted s) :
    s.map (·.value.1) = l.names ∨ s.map (·.value.1) = l.names.map (Equiv.swap a b) := by
  let merge (x : Bytes) : Bytes := if x = b then a else x
  have hmerge : ∀ x y, merge x = merge y → x = y ∨ x = Equiv.swap a b y := by
    intro x y hxy
    simp only [merge] at hxy
    rw [Equiv.swap_apply_def]
    split at hxy <;> split at hxy <;> simp_all
  have hnames : (s.map (·.value.1)).map merge = l.names.map merge := by
    rw [List.map_map]
    exact h.map_names_eq (f := merge) (by rintro x y ⟨rfl, rfl⟩; simp [merge]) hp hs
  refine eq_or_eq_map_swap (h.names_nodup hp) h.distinct ?_
  rw [← List.forall₂_eq_eq_eq, List.forall₂_map_left_iff, List.forall₂_map_right_iff] at hnames
  exact hnames.imp hmerge

end RuleList

/-! ### Pipelines -/

namespace Pipeline

open RuleList (Mirrors)

variable {p q : Pipeline} {i : List (Bytes × InlineRule)} {b : List (Bytes × BlockRule)}

def Tied (x y : Bytes) : Prop := x = utf8 "emphasis" ∧ y = utf8 "strikethrough"

instance (x y : Bytes) : Decidable (Tied x y) := inferInstanceAs (Decidable (_ ∧ _))

def MirroredBy {α : Type} (tied : Bytes → Bytes → Prop) (l : RuleList) (given : List (Bytes × α))
    (registered : List (Prioritized α)) (named : List (Prioritized (Bytes × α))) : Prop :=
  named.map (·.value) = given ∧ named.map Prioritized.rule = registered ∧ Mirrors tied l named

lemma mirroredBy_defaults :
    (∃ named, MirroredBy Tied (defaultInline.map (·.1)) (defaultInline.map fun (e, r) => (e.name, r))
      (defaultInline.map fun (e, r) => ⟨e.priority, r⟩) named) ∧
    ∃ named, MirroredBy (fun _ _ => False) (defaultBlock.map (·.1))
      (defaultBlock.map fun (e, r) => (e.name, r))
      (defaultBlock.map fun (e, r) => ⟨e.priority, r⟩) named := by
  refine ⟨⟨defaultInline.map fun (e, r) => ⟨e.priority, (e.name, r)⟩, rfl, rfl, ?_⟩,
    ⟨defaultBlock.map fun (e, r) => ⟨e.priority, (e.name, r)⟩, rfl, rfl, ?_⟩⟩
  · exact ⟨nodup_defaults.1, by decide +kernel, .refl _⟩
  · exact ⟨nodup_defaults.2, by decide +kernel, .refl _⟩

lemma MirroredBy.insert {α : Type} {tied : Bytes → Bytes → Prop} {l l' : RuleList}
    {given : List (Bytes × α)} {registered : List (Prioritized α)}
    {named : List (Prioritized (Bytes × α))} {name before triggers : Bytes} {priority : Int}
    (h : MirroredBy tied l given registered named)
    (hl : l.insert name before triggers = .ok (l', priority)) (rule : α) :
    MirroredBy tied l' (given ++ [(name, rule)]) (registered ++ [⟨priority, rule⟩])
      (named ++ [⟨priority, (name, rule)⟩]) := by
  obtain ⟨rfl, rfl, hm⟩ := h
  obtain ⟨hn, hi⟩ := inserted_of_insert hm.distinct hl
  exact ⟨List.map_append, List.map_append, hm.inserted hn hi rule⟩

lemma Reached.mirrored (h : Reached p i b) :
    (∃ named, MirroredBy Tied p.inline i p.inlineRules named) ∧
      ∃ named, MirroredBy (fun _ _ => False) p.block b p.blockRules named := by
  induction h with
  | bare style => exact mirroredBy_defaults
  | inline _ hq ih =>
    obtain ⟨⟨named, hm⟩, hb⟩ := ih
    obtain ⟨-, l, priority, hl, rfl⟩ := addInlineRule_eq_ok hq
    exact ⟨⟨_, hm.insert hl _⟩, hb⟩
  | block _ hq ih =>
    obtain ⟨hi, named, hm⟩ := ih
    obtain ⟨-, l, priority, hl, rfl⟩ := addBlockRule_eq_ok hq
    exact ⟨hi, _, hm.insert hl _⟩
  | visitor _ _ _ ih => exact ih
  | reading _ ih => exact ih

lemma MirroredBy.names_perm {α : Type} {tied : Bytes → Bytes → Prop} {l : RuleList} {given : List (Bytes × α)}
    {registered : List (Prioritized α)} {named : List (Prioritized (Bytes × α))}
    (h : MirroredBy tied l given registered named) : l.names.Perm (given.map (·.1)) := by
  obtain ⟨rfl, -, hm⟩ := h
  have hnames := hm.registered.map Prod.fst
  rw [List.map_map, List.map_map] at hnames
  rw [List.map_map]
  exact hnames.symm

lemma Reached.names_perm (h : Reached p i b) :
    p.inline.names.Perm (i.map (·.1)) ∧ p.block.names.Perm (b.map (·.1)) := by
  obtain ⟨⟨_, hi⟩, _, hb⟩ := h.mirrored
  exact ⟨hi.names_perm, hb.names_perm⟩

lemma infix_names_of_insert {l l' : RuleList} {name before triggers : Bytes} {priority : Int}
    (hl : l.names.Nodup) (hb : before ≠ []) (h : l.insert name before triggers = .ok (l', priority)) :
    [name, before] <:+: l'.names := by
  obtain ⟨-, l₁, l₂, -, rfl, -, -, hhead⟩ := inserted_of_insert hl h
  obtain ⟨r, hr, rfl⟩ := hhead hb
  obtain ⟨l₂', rfl⟩ : ∃ l₂', l₂ = r :: l₂' := by
    cases l₂ with
    | nil => cases hr
    | cons x l₂ => exact ⟨l₂, by rw [Option.some.inj hr]⟩
  exact ⟨RuleList.names l₁, RuleList.names l₂', by simp [RuleList.names]⟩

/-- On every pipeline that calls led to, the two lists have distinct names and the priorities of the rules
registered under these names, which increase along the list, emphasis and strikethrough apart. Sorting the
registered rules by priority gives the names of the list in its order, up to these two, and the grammar
has the rules in such an order. A rule added in front of another comes right before it. -/
theorem rules_mirror_registered {style : Style} {plugins : List Plugin}
    (h : new style plugins = .ok p) (calls : List Call) :
    let q := p.afterAll calls
    (∃ named : List (Prioritized (Bytes × InlineRule)),
      named.map (·.value) = givenInline plugins ++ p.takenAll Plugin.inlineRule? calls ∧
      named.map Prioritized.rule = q.inlineRules ∧
      Mirrors Tied q.inline named ∧
      (∀ s, s.Perm named → Prioritized.Sorted s → s.map (·.value.1) = q.inline.names ∨
        s.map (·.value.1) =
          q.inline.names.map (Equiv.swap (utf8 "emphasis") (utf8 "strikethrough"))) ∧
      ∃ s, s.Perm named ∧ Prioritized.Sorted s ∧ s.map (·.value.2) = q.grammar.inline) ∧
    (∃ named : List (Prioritized (Bytes × BlockRule)),
      named.map (·.value) = givenBlock plugins ++ p.takenAll Plugin.blockRule? calls ∧
      named.map Prioritized.rule = q.blockRules ∧
      Mirrors (fun _ _ => False) q.block named ∧
      (∀ s, s.Perm named → Prioritized.Sorted s → s.map (·.value.1) = q.block.names) ∧
      ∃ s, s.Perm named ∧ Prioritized.Sorted s ∧ s.map (·.value.2) = q.grammar.block) ∧
    (∀ name before rule r, before ≠ [] → q.addInlineRule name rule before = .ok r →
      [name, before] <:+: r.inline.names) ∧
    (∀ name before rule r, before ≠ [] → q.addBlockRule name rule before = .ok r →
      [name, before] <:+: r.block.names) := by
  intro q
  have hq := (reached_of_new h).afterAll calls
  obtain ⟨⟨inline, hi, hri, hmi⟩, block, hb, hrb, hmb⟩ := hq.mirrored
  refine ⟨⟨inline, hi, hri, hmi, fun s => hmi.names_of_sorted_tied, ?_⟩,
    ⟨block, hb, hrb, hmb, fun s => hmb.names_of_sorted, ?_⟩, ?_, ?_⟩
  · rw [grammar, ← hri]
    exact Prioritized.exists_inOrder inline
  · rw [grammar, ← hrb]
    exact Prioritized.exists_inOrder block
  · intro name before rule r hne hr
    obtain ⟨-, l, priority, hl, rfl⟩ := addInlineRule_eq_ok hr
    exact infix_names_of_insert hmi.distinct hne hl
  · intro name before rule r hne hr
    obtain ⟨-, l, priority, hl, rfl⟩ := addBlockRule_eq_ok hr
    exact infix_names_of_insert hmb.distinct hne hl

/-- With alerts and a block rule that was refused and one that was taken. -/
theorem rules_mirror_registered_alerts :
    ∃ p, new {} [.alerts] = .ok p ∧
      let q := p.afterAll [.register (.blockRule (utf8 "x") .html (utf8 "none")),
        .register (.blockRule (utf8 "x") .html (utf8 "list"))]
      q.block.names = [utf8 "setextHeading", utf8 "thematicBreak", utf8 "x", utf8 "list",
        utf8 "listItem", utf8 "codeBlock", utf8 "atxHeading", utf8 "fencedCode", utf8 "blockquote",
        utf8 "html", utf8 "footnoteBlock", utf8 "paragraph"] ∧
      ∃ named : List (Prioritized (Bytes × BlockRule)),
        named.map Prioritized.rule = q.blockRules ∧ Mirrors (fun _ _ => False) q.block named := by
  have hnames : ((new {} [.alerts]).toOption.map fun p =>
      (p.afterAll [.register (.blockRule (utf8 "x") .html (utf8 "none")),
        .register (.blockRule (utf8 "x") .html (utf8 "list"))]).block.names) =
      some [utf8 "setextHeading", utf8 "thematicBreak", utf8 "x", utf8 "list", utf8 "listItem",
        utf8 "codeBlock", utf8 "atxHeading", utf8 "fencedCode", utf8 "blockquote", utf8 "html",
        utf8 "footnoteBlock", utf8 "paragraph"] := by decide +kernel
  cases hp : new {} [.alerts] with
  | error e =>
    rw [hp] at hnames
    cases hnames
  | ok p =>
    rw [hp] at hnames
    obtain ⟨named, -, hr, hm, -⟩ := (rules_mirror_registered hp
      [.register (.blockRule (utf8 "x") .html (utf8 "none")),
        .register (.blockRule (utf8 "x") .html (utf8 "list"))]).2.1
    exact ⟨p, rfl, Option.some.inj hnames, named, hr, hm⟩

end Pipeline

end MarkdownTidy
