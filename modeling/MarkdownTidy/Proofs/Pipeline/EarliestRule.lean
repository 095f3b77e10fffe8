import MarkdownTidy.Proofs.Pipeline.RuleOrder

/-! A rule that is put in front of the earliest rule tried on one of its bytes. It stands ahead of all such rules up to
the one asked about, and no later registration puts one of them in front of it. -/

namespace MarkdownTidy

def RuleEntry.Fires (r : RuleEntry) (triggers : Bytes) : Prop := ∃ b ∈ triggers, b ∈ r.triggers

namespace RuleList

variable {l l' : RuleList} {x y name before triggers : Bytes} {entry : RuleEntry} {priority : Int}

def Ahead (l : RuleList) (x y : Bytes) : Prop := [x, y].Sublist l.names

lemma Ahead.mono (h : l.Ahead x y) (hl : l.Sublist l') : l'.Ahead x y := h.trans (hl.map _)

lemma ahead_append {l₁ l₂ : RuleList} (hx : x ∈ l₁.names) (hy : y ∈ l₂.names) : (l₁ ++ l₂).Ahead x y := by
  rw [Ahead, names_append]
  exact (List.singleton_sublist.mpr hx).append (List.singleton_sublist.mpr hy)

lemma Ahead.mem_names {l₁ l₂ : RuleList} (h : (l₁ ++ entry :: l₂).Ahead x entry.name)
    (hn : (names (l₁ ++ entry :: l₂)).Nodup) : x ∈ l₁.names := by
  rw [names_append] at hn
  obtain ⟨-, hback, hdisjoint⟩ := List.nodup_append.mp hn
  rw [Ahead, names_append] at h
  obtain ⟨u, v, huv, hu, hv⟩ := List.sublist_append_iff.mp h
  cases u with
  | nil =>
    -- then two names are found from the rule on, the second of them its own once more
    rw [List.nil_append] at huv
    subst huv
    cases hv with
    | cons _ hv => exact absurd (hv.subset (by simp)) (List.nodup_cons.mp hback).1
    | cons_cons _ hv => exact absurd (hv.subset (by simp)) (List.nodup_cons.mp hback).1
  | cons z u =>
    obtain ⟨rfl, -⟩ := List.cons.inj huv
    exact hu.subset List.mem_cons_self

lemma sublist_of_insertBefore {low : Option Int}
    (h : insertBefore name before triggers low l = .ok (l', priority)) : l.Sublist l' := by
  induction l generalizing low l' with
  | nil => cases h
  | cons r l ih =>
    rw [insertBefore] at h
    split at h
    · dsimp only at h
      split at h
      · cases h
      · cases h
        exact List.sublist_cons_self _ _
    · split at h
      · cases h
      · rename_i hl
        cases h
        exact (ih hl).cons_cons r

lemma sublist_of_insert (h : l.insert name before triggers = .ok (l', priority)) : l.Sublist l' := by
  rw [insert] at h
  split at h
  · cases h
  · split at h
    · cases h
      exact List.sublist_append_left _ _
    · exact sublist_of_insertBefore h

lemma any_contains_iff (r : RuleEntry) : triggers.any r.triggers.contains = true ↔ r.Fires triggers := by
  simp [RuleEntry.Fires]

lemma exists_split_earliest (h : before ∈ l.names) (triggers : Bytes) :
    ∃ (l₁ : RuleList) (r : RuleEntry) (l₂ : RuleList), l = l₁ ++ r :: l₂ ∧ r.name = l.earliest triggers before ∧
      before ∈ names (r :: l₂) ∧ ∀ x ∈ l₁, ¬ x.Fires triggers := by
  obtain ⟨k, b, k', rfl, rfl, hk⟩ := exists_split h
  have hfront : (k ++ b :: k').takeWhile (·.name != b.name) = k := by
    have hne : ∀ x ∈ k, (x.name != b.name) = true := fun x hx =>
      bne_iff_ne.mpr fun he => hk (he ▸ List.mem_map_of_mem hx)
    rw [List.takeWhile_append_of_pos hne, List.takeWhile_cons, bne_self_eq_false]
    simp
  have hcontains : RuleList.contains (k ++ b :: k') b.name = true := List.contains_iff_mem.mpr h
  rw [earliest, if_pos hcontains, hfront]
  cases hfind : k.find? fun r => triggers.any r.triggers.contains with
  | none =>
    refine ⟨k, b, k', rfl, rfl, List.mem_cons_self, fun x hx hfires => ?_⟩
    exact List.find?_eq_none.mp hfind x hx ((any_contains_iff x).mpr hfires)
  | some r =>
    obtain ⟨-, l₁, l₂, rfl, hquiet⟩ := List.find?_eq_some_iff_append.mp hfind
    refine ⟨l₁, r, l₂ ++ b :: k', by simp, rfl, ?_, fun x hx hfires => ?_⟩
    · exact List.mem_map_of_mem (List.mem_cons_of_mem r (List.mem_append_right l₂ List.mem_cons_self))
    · have hnone := hquiet x hx
      rw [(any_contains_iff x).mpr hfires] at hnone
      cases hnone

end RuleList

namespace Pipeline

variable {p q r : Pipeline} {name before triggers : Bytes}

lemma inline_sublist_after (p : Pipeline) (c : Call) : p.inline.Sublist (p.after c).inline := by
  cases c with
  | register x =>
    cases hx : p.register x with
    | error e => rw [after_of_error hx]
    | ok q =>
      rw [after_of_ok hx]
      rcases register_cases hx with ⟨_, _, _, p', -, -, hp', rfl⟩ | ⟨_, _, _, p', -, -, hp', rfl⟩ | ⟨-, -, rfl⟩
      · obtain ⟨-, l, priority, hl, rfl⟩ := addInlineRule_eq_ok hp'
        rw [addVisitor?_inline]
        exact RuleList.sublist_of_insert hl
      · obtain ⟨-, l, priority, -, rfl⟩ := addBlockRule_eq_ok hp'
        rw [addVisitor?_inline]
      · rw [addVisitor?_inline]
  | parse source => exact List.Sublist.refl _
  | format source => exact List.Sublist.refl _

lemma inline_sublist_afterAll (p : Pipeline) (calls : List Call) : p.inline.Sublist (p.afterAll calls).inline := by
  induction calls generalizing p with
  | nil => exact List.Sublist.refl _
  | cons c calls ih => exact (inline_sublist_after p c).trans (ih (p.after c))

/-- A rule put in front of the earliest rule that fires on one of some bytes stands ahead of the rule asked about and
of all rules up to that one that fire on them, no rule ahead of it fires on them, and whatever is called later, it stays
ahead of every rule it stands ahead of. -/
theorem addInlineRule_earliest {style : Style} {plugins : List Plugin} (h : new style plugins = .ok p) (calls : List Call)
    (hnames : ∀ r ∈ givenInline plugins ++ p.takenAll Plugin.inlineRule? calls, r.1 ≠ []) {rule : InlineRule}
    (hbefore : before ∈ (p.afterAll calls).inline.names)
    (hr : (p.afterAll calls).addInlineRule name rule ((p.afterAll calls).inline.earliest triggers before) = .ok r) :
    let q := p.afterAll calls
    r.inline.Ahead name before ∧
    (∀ x ∈ q.inline, q.inline.Ahead x.name before → x.Fires triggers → r.inline.Ahead name x.name) ∧
    (∀ x ∈ r.inline, r.inline.Ahead x.name name → ¬ x.Fires triggers) ∧
    ∀ more, (r.afterAll more).inline.names.Nodup ∧ ∀ y, r.inline.Ahead name y → (r.afterAll more).inline.Ahead name y := by
  intro q
  have hq := (reached_of_new h).afterAll calls
  have hfull : ∀ n ∈ q.inline.names, n ≠ [] := fun n hn => by
    obtain ⟨r, hr, rfl⟩ := List.mem_map.mp (hq.names_perm.1.mem_iff.mp hn)
    exact hnames r hr
  obtain ⟨l₁, e, l₂, hsplit, he, hmem, hquiet⟩ := RuleList.exists_split_earliest hbefore triggers
  have hreached := hq.inline hr
  obtain ⟨-, l, priority, hl, rfl⟩ := addInlineRule_eq_ok hr
  obtain ⟨-, k₁, k₂, hk, rfl, -, -, hhead⟩ := inserted_of_insert hq.nodup.1 hl
  -- the new rule goes right in front of the earliest one, which the names tell from all others
  obtain ⟨e', he', hname⟩ := hhead (he ▸ hfull _ (by rw [hsplit]; simp [RuleList.names]))
  obtain ⟨k₂', rfl⟩ := List.head?_eq_some_iff.mp he'
  have hnodup : (RuleList.names (k₁ ++ e' :: k₂')).Nodup := hk ▸ hq.nodup.1
  obtain ⟨rfl, rfl, rfl⟩ := RuleList.split_unique hnodup (hk.symm.trans hsplit) (he.trans hname.symm)
  have hahead : ∀ y ∈ RuleList.names (e' :: k₂'),
      RuleList.Ahead (k₁ ++ ⟨name, priority, rule.triggers⟩ :: e' :: k₂') name y := by
    intro y hy
    rw [List.append_cons]
    exact RuleList.ahead_append (by simp [RuleList.names]) hy
  refine ⟨hahead before hmem, ?_, ?_, fun more => ⟨(hreached.afterAll more).nodup.1, fun y hy => ?_⟩⟩
  · intro x hx _ hfires
    rw [hk] at hx
    rcases List.mem_append.mp hx with hx | hx
    · exact absurd hfires (hquiet x hx)
    · exact hahead x.name (List.mem_map_of_mem hx)
  · intro x hx hx'
    obtain ⟨z, hz, hzx⟩ := List.mem_map.mp (hx'.mem_names hreached.nodup.1)
    obtain rfl := List.inj_on_of_nodup_map hreached.nodup.1 (List.mem_append_left _ hz) hx hzx
    exact hquiet z hz
  · exact hy.mono (inline_sublist_afterAll _ more)

/-- A rule for brackets goes ahead of the check box, the first rule for brackets; one more rule goes in front of that. -/
theorem addInlineRule_earliest_bracket :
    ∃ p r, new {} [.alerts] = .ok p ∧ p.addInlineRule (utf8 "x") .alert (p.inline.earliest (utf8 "[") (utf8 "html")) = .ok r ∧
      let s := r.afterAll [.register (.inlineRule (utf8 "y") .alert (utf8 "taskCheckBox"))]
      s.inline.names.take 3 = [utf8 "x", utf8 "y", utf8 "taskCheckBox"] ∧ s.inline.Ahead (utf8 "x") (utf8 "html") := by
  have hrun : ((new {} [.alerts]).toOption.bind fun p =>
      (p.addInlineRule (utf8 "x") .alert (p.inline.earliest (utf8 "[") (utf8 "html"))).toOption.map fun r =>
        (p.inline.contains (utf8 "html"),
          (r.afterAll [.register (.inlineRule (utf8 "y") .alert (utf8 "taskCheckBox"))]).inline.names.take 3)) =
      some (true, [utf8 "x", utf8 "y", utf8 "taskCheckBox"]) := by decide +kernel
  cases hp : new {} [.alerts] with
  | error e =>
    rw [hp] at hrun
    cases hrun
  | ok p =>
    rw [hp] at hrun
    cases hr : p.addInlineRule (utf8 "x") .alert (p.inline.earliest (utf8 "[") (utf8 "html")) with
    | error e =>
      simp [Except.toOption, hr] at hrun
    | ok r =>
      simp only [Except.toOption, hr, Option.bind_some, Option.map_some, Option.some.injEq, Prod.mk.injEq] at hrun
      obtain ⟨hhtml, hnames⟩ := hrun
      have hgiven : ∀ r ∈ givenInline [.alerts] ++ [], r.1 ≠ [] := by decide +kernel
      obtain ⟨hfront, -, -, hstays⟩ := addInlineRule_earliest hp [] hgiven (List.contains_iff_mem.mp hhtml) hr
      exact ⟨p, r, rfl, hr, hnames, (hstays _).2 _ hfront⟩

end Pipeline

end MarkdownTidy
