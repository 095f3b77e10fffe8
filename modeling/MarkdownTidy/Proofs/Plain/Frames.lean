import MarkdownTidy.Proofs.Plain.Paragraph

/-! Open blocks of a plain document, and what a line opens. -/

namespace MarkdownTidy.Plain

def CodeLines (source : Bytes) : List Span → List Bytes → Prop :=
  List.Forall₂ fun s l => s.Covers source (l ++ [Bytes.newline])

/-- An open block holds what the outline has open. -/
inductive Holds (source : Bytes) : Frame → Open → Prop
  | heading {blank : Bool} {level : Nat} {spans : List Span} {text : Bytes}
      (h : HeadingLines source spans text) :
      Holds source ⟨.heading level, blank, spans, []⟩ (.heading level text)
  | paragraph {blank : Bool} {spans : List Span} {ps : List Bytes}
      (h : List.Forall₂ (Carries source) spans ps) :
      Holds source ⟨.paragraph, blank, spans, []⟩ (.paragraph ps)
  | indented {blank : Bool} {spans : List Span} {ls : List Bytes} (h : CodeLines source spans ls) :
      Holds source ⟨.codeBlock, blank, spans, []⟩ (.indented ls)
  | fenced {blank : Bool} {info : Option Span} {n : Nat} {i : Bytes} {spans : List Span}
      {ls : List Bytes} (hi : LabelSpan source info i) (h : CodeLines source spans ls) :
      Holds source ⟨.fencedCode info (byte '`') 0 n, blank, spans, []⟩ (.fenced n i ls)

def Begins (source : Bytes) (c : LineCursor) : Option Opened → Open → Prop
  | none, o => o = .nothing
  | some b, o => b.descend = false ∧ b.takesParagraph = false ∧ c.SameLine b.cursor ∧
      ∀ blank, Holds source ⟨b.block, blank, b.lines, []⟩ o

def Finds (source : Bytes) (place : Place) (c : LineCursor) (rs : List BlockRule) (o : Open) : Prop :=
  ∀ ctx, ∃ ctx' found, Opening.firstOf source place c ctx rs = (ctx', found) ∧
    (Clear ctx → Clear ctx') ∧ Begins source c found o

section

variable {source : Bytes} {place : Place} {c : LineCursor} {o : Open}

lemma finds_nothing {rs : List BlockRule} (h : ∀ r ∈ rs, Silent source place c r) :
    Finds source place c rs .nothing := by
  intro ctx
  obtain ⟨ctx', hc, he⟩ := firstOf_silent source place c h ctx
  exact ⟨ctx', none, he, hc, rfl⟩

lemma finds_append {rs rs' : List BlockRule} (h : ∀ r ∈ rs, Silent source place c r)
    (h' : Finds source place c rs' o) : Finds source place c (rs ++ rs') o := by
  intro ctx
  obtain ⟨ctx₁, hc₁, he₁⟩ := firstOf_silent_append source place c h rs' ctx
  obtain ⟨ctx₂, found, he₂, hc₂, hb⟩ := h' ctx₁
  exact ⟨ctx₂, found, he₁.trans he₂, hc₂ ∘ hc₁, hb⟩

lemma finds_cons {r : BlockRule} {b : Opened} (h : ∀ ctx, Opening.try_ source place ctx c r = (ctx, some b))
    (hb : Begins source c (some b) o) (rs : List BlockRule) : Finds source place c (r :: rs) o := by
  intro ctx
  refine ⟨ctx, some b, ?_, id, hb⟩
  rw [Opening.firstOf, h]

end

variable {source : Bytes} {place : Place} {number start : Nat} {l : Bytes} {ls : List Bytes}

/-! ### The rules on each kind of line -/

lemma silent_of_try {c : LineCursor} {r : BlockRule} (h : ∀ ctx, Opening.try_ source place ctx c r = (ctx, none)) :
    Silent source place c r := fun ctx => ⟨ctx, h ctx, id⟩

lemma silent_codeBlock {c : LineCursor} (h : Opening.codeBlock c = none) : Silent source place c .codeBlock :=
  silent_of_try fun ctx => by rw [Opening.try_, h]

section

variable {k m : Nat} {t : Bytes} (h : Words t) (hl : l = Bytes.spaces k ++ t ++ Bytes.spaces m)
include h hl

lemma silent_words (hk : k ≤ 3) (hu : place.lastIsParagraph = false ∨ isRow t = false)
    (hh : heading? t = none) (hs : source.drop start = Bytes.unlines (l :: ls)) :
    ∀ r ∈ triggered (t ++ (Bytes.spaces m ++ [Bytes.newline])),
      Silent source place (.front number start (l :: ls)) r := by
  have hr : (LineCursor.front number start (l :: ls)).rest =
      Bytes.spaces k ++ (t ++ (Bytes.spaces m ++ [Bytes.newline])) := by
    rw [LineCursor.rest_front_cons, hl]
    simp only [List.append_assoc]
  intro r hm
  rcases mem_triggered_words h hm with rfl | rfl | rfl | rfl
  · apply silent_of_try
    intro ctx
    rw [Opening.try_, Opening.setextHeading, hr, underlineLevel?_words h hk isSpace_of_mem_end]
    rcases hu with hu | hu <;> simp [hu]
  · intro ctx
    rw [Opening.try_, Opening.list, hr, read?_words h hk isSpace_of_mem_end]
    split
    · exact ⟨_, rfl, fun hc => ⟨hc.1, hc.2, hc.3⟩⟩
    · exact ⟨_, rfl, id⟩
  · apply silent_of_try
    intro ctx
    rw [Opening.try_, Opening.listItem, hr, read?_words h hk isSpace_of_mem_end]
    cases place.holder <;> rfl
  · apply silent_of_try
    intro ctx
    obtain ⟨n, x, rfl, hx⟩ := exists_run t
    have ha := atxHeading_words number h hx hl hs
    rw [hh] at ha
    rw [Opening.try_, ha]

lemma finds_heading {level : Nat} {text : Bytes} (hh : heading? t = some (level, text))
    (hs : source.drop start = Bytes.unlines (l :: ls)) (y : Bytes) (rs : List BlockRule) :
    Finds source place (.front number start (l :: ls)) (triggered (t ++ y) ++ rs)
      (.heading level text) := by
  obtain ⟨n, r, rfl, hr⟩ := exists_run t
  cases n with
  | zero =>
    simp only [heading?, Bytes.length_run hr, beq_self_eq_true, Bool.true_or, if_true] at hh
    cases hh
  | succ n =>
    have ha := atxHeading_words number h hr hl hs
    rw [hh] at ha
    obtain ⟨spans, hspans, ha⟩ := ha
    have ht : ∀ ctx, Opening.try_ source place ctx (.front number start (l :: ls)) .atxHeading = (ctx, _) :=
      fun ctx => congrArg (ctx, ·) ha
    rw [List.replicate_succ, List.cons_append, List.cons_append, triggered_sign]
    exact finds_cons ht ⟨rfl, rfl, .refl _, fun blank => .heading hspans⟩ rs

lemma finds_words (hk : k ≤ 3) (hm : m ≤ 1) (hp : place.lastIsParagraph = false)
    (hs : source.drop start = Bytes.unlines (l :: ls)) :
    Finds source place (.front number start (l :: ls))
      (triggered (t ++ (Bytes.spaces m ++ [Bytes.newline])) ++ [.codeBlock, .paragraph])
      (Open.start l) := by
  rw [hl, start_words h, if_neg (by omega), ← hl]
  cases hh : heading? t with
  | some found => exact finds_heading h hl hh hs _ _
  | none =>
    obtain ⟨span, c, hc, hsame, he⟩ := paragraph_words number h hm hl hs
    have ht : ∀ ctx, Opening.try_ source place ctx (.front number start (l :: ls)) .paragraph = (ctx, _) :=
      fun ctx => congrArg (ctx, ·) he
    refine finds_append (silent_words h hl hk (.inl hp) hh hs) ?_
    refine finds_append (List.forall_mem_singleton.mpr (silent_codeBlock (codeBlock_words h hk hl))) ?_
    exact finds_cons ht ⟨rfl, rfl, hsame, fun blank => .paragraph (.cons hc .nil)⟩ []

end

lemma finds_fence {n j m : Nat} {i : Bytes} (hn : 3 ≤ n) (hi : Label i)
    (hl : l = List.replicate n (byte '`') ++ (Bytes.spaces j ++ i ++ Bytes.spaces m))
    (hs : source.drop start = Bytes.unlines (l :: ls)) (rs : List BlockRule) :
    Finds source place (.front number start (l :: ls)) (.fencedCode :: rs) (.fenced n i []) := by
  obtain ⟨info, hinfo, he⟩ := fencedCode_fence number hn hi hl hs
  have ht : ∀ ctx, Opening.try_ source place ctx (.front number start (l :: ls)) .fencedCode = (ctx, _) :=
    fun ctx => congrArg (ctx, ·) he
  exact finds_cons ht ⟨rfl, rfl, .refl _, fun blank => .fenced hinfo .nil⟩ rs

lemma finds_deep {t : Bytes} (hb : Bytes.isBlank t = false) (hl : l = Bytes.spaces 4 ++ t)
    (hs : source.drop start = Bytes.unlines (l :: ls)) :
    Finds source place (.front number start (l :: ls)) [.codeBlock] (.indented [t]) := by
  obtain ⟨span, c, hspan, hc, he⟩ := codeBlock_deep number hb hl hs
  have ht : ∀ ctx, Opening.try_ source place ctx (.front number start (l :: ls)) .codeBlock = (ctx, _) :=
    fun ctx => congrArg (ctx, ·) he
  exact finds_cons ht ⟨rfl, rfl, hc, fun blank => .indented (.cons hspan .nil)⟩ []

lemma silent_blank (hb : Bytes.isBlank l = true) (hs : source.drop start = Bytes.unlines (l :: ls))
    {r : BlockRule} (hr : r = .codeBlock ∨ r = .paragraph) :
    Silent source place (.front number start (l :: ls)) r := by
  rcases hr with rfl | rfl
  · exact silent_codeBlock (codeBlock_blank hb)
  · exact silent_of_try fun ctx => by rw [Opening.try_, paragraph_blank hb hs]

/-! ### Lines outside a paragraph -/

section

variable {s : OpeningState} (hc : s.cursor = .front number start (l :: ls)) (ho : s.opened = [])
include hc ho

lemma rules_blank {k : Nat} (hl : l = Bytes.spaces k) :
    s.rules grammar (l ++ [Bytes.newline]) = (if s.continuable then [] else [.codeBlock]) ∨
      s.rules grammar (l ++ [Bytes.newline]) = if s.continuable then [] else [.codeBlock, .paragraph] := by
  have hm : Indent.measure (l ++ [Bytes.newline]) s.cursor.column = (k, k) := by
    rw [hc, LineCursor.column_front, hl, measure_spaces (by rintro _ ⟨⟩; decide)]
  by_cases hk : k ≤ 3
  · right
    rw [rules_shallow ho (by rw [hm]; exact hk), hm, hl, Bytes.drop_spaces, triggered_newline, List.nil_append]
  · left
    rw [rules_deep (by rw [hm]; omega), ho]
    simp

lemma rules_spaces {t : Bytes} (hl : l = Bytes.spaces 4 ++ t) :
    s.rules grammar (l ++ [Bytes.newline]) = if s.continuable then [] else [.codeBlock] := by
  rw [rules_deep, ho]
  · simp
  · rw [hc, LineCursor.column_front, hl, List.append_assoc]
    exact four_le_measure _

lemma rules_words {k m : Nat} {t : Bytes} (h : Words t) (hk : k ≤ 3)
    (hl : l = Bytes.spaces k ++ t ++ Bytes.spaces m) :
    s.rules grammar (l ++ [Bytes.newline]) = triggered (t ++ (Bytes.spaces m ++ [Bytes.newline])) ++
      if s.continuable then [] else [.codeBlock, .paragraph] := by
  have hr : l ++ [Bytes.newline] = Bytes.spaces k ++ (t ++ (Bytes.spaces m ++ [Bytes.newline])) := by
    rw [hl]
    simp only [List.append_assoc]
  have hm : Indent.measure (l ++ [Bytes.newline]) s.cursor.column = (k, k) := by
    rw [hc, LineCursor.column_front, hr, measure_words h]
  rw [rules_shallow ho (by rw [hm]; exact hk), hm, hr, Bytes.drop_spaces]

lemma rules_fence {n : Nat} {x : Bytes} (hn : 3 ≤ n) (hl : l = List.replicate n (byte '`') ++ x) :
    s.rules grammar (l ++ [Bytes.newline]) = .fencedCode ::
      if s.continuable then [] else [.codeBlock, .paragraph] := by
  obtain ⟨k, rfl⟩ : ∃ k, n = k + 1 := ⟨n - 1, by omega⟩
  have hm : Indent.measure (l ++ [Bytes.newline]) s.cursor.column = (0, 0) := by
    rw [hc, LineCursor.column_front, hl, List.replicate_succ]
    rfl
  rw [rules_shallow ho (by rw [hm]; omega), hm, hl, List.replicate_succ, List.drop_zero, List.cons_append,
    List.cons_append, triggered_mark]
  rfl

lemma finds_start (hn : s.continuable = false) (hp : s.place.lastIsParagraph = false)
    (hl : BlankLine l ∨ DeepLine l ∨ WordLine l ∨ FenceLine l)
    (hs : source.drop start = Bytes.unlines (l :: ls)) :
    Finds source s.place s.cursor (s.rules grammar (l ++ [Bytes.newline])) (Open.start l) := by
  rcases hl with ⟨k, hl⟩ | ⟨t, -, hb, hl⟩ | ⟨k, t, m, hw, hm, hl⟩ | ⟨n, j, i, m, h3, hi, hl⟩
  · have hb : Bytes.isBlank l = true := by rw [hl, isBlank_spaces]
    have hr := rules_blank hc ho hl
    rw [hn] at hr
    rw [hc, hl, start_spaces, ← hl]
    apply finds_nothing
    intro r hmem
    refine silent_blank hb hs ?_
    rcases hr with hr | hr <;> simp_all
  · rw [rules_spaces hc ho hl, hn, hc, hl, start_deep hb, ← hl]
    exact finds_deep hb hl hs
  · by_cases hk : k ≤ 3
    · rw [rules_words hc ho hw hk hl, hn, hc]
      exact finds_words hw hl hk hm hp hs
    · obtain ⟨k, rfl⟩ : ∃ k', k = 4 + k' := ⟨k - 4, by omega⟩
      have hd : l = Bytes.spaces 4 ++ (Bytes.spaces k ++ t ++ Bytes.spaces m) := by
        rw [hl, Bytes.spaces_add]
        simp only [List.append_assoc]
      have hb : Bytes.isBlank (Bytes.spaces k ++ t ++ Bytes.spaces m) = false :=
        hw.toTrimmed.isBlank_eq_false hw.ne_nil _ _
      rw [rules_spaces hc ho hd, hn, hc, hd, start_deep hb, ← hd]
      exact finds_deep hb hd hs
  · rw [rules_fence hc ho h3 hl, hn, hc, hl, start_fence h3 hi, ← hl]
    exact finds_fence h3 hi hl hs _

end

/-! ### Opening blocks on a line -/

lemma Holds.ne_nothing {f : Frame} {o : Open} (h : Holds source f o) : o ≠ .nothing := by
  rintro rfl
  cases h

inductive HoldAll (source : Bytes) : List Frame → Open → Prop
  | nothing : HoldAll source [] .nothing
  | one {f : Frame} {o : Open} (h : Holds source f o) : HoldAll source [f] o

/-- Opening blocks came to what the outline has open, with no paragraph used up. -/
structure Opens (source : Bytes) (s r : OpeningState) (o : Open) : Prop where
  clear : Clear s.context → Clear r.context
  sameLine : s.cursor.SameLine r.cursor
  cursor : o = .nothing → r.cursor = s.cursor
  opened : HoldAll source r.opened o
  continuable : r.continuable = s.continuable
  settled : r.settled = s.settled

lemma run_finds {s : OpeningState} {o : Open} (hc : s.cursor = .front number start (l :: ls))
    (ho : s.opened = []) (hf : Finds source s.place s.cursor (s.rules grammar (l ++ [Bytes.newline])) o)
    (hl : Bytes.newline ∉ l) (hne : l = [] → o = .nothing) (blank : Bool) (fuel : Nat) :
    Opens source s (s.run grammar source blank (fuel + 1)) o := by
  obtain ⟨ctx', found, he, hclear, hb⟩ := hf s.context
  have hpeek : s.cursor.peek? = some (l ++ [Bytes.newline]) := by rw [hc, LineCursor.peek?_front_cons]
  rw [OpeningState.run, hpeek]
  dsimp only
  split
  · rename_i hh
    obtain rfl : l = [] := by
      cases l with
      | nil => rfl
      | cons b l =>
        obtain rfl : b = Bytes.newline := by simpa using hh
        simp at hl
    exact ⟨id, .refl _, fun _ => rfl, by rw [ho, hne rfl]; exact .nothing, rfl, rfl⟩
  · rw [he]
    cases found with
    | none =>
      obtain rfl := hb
      exact ⟨hclear, .refl _, fun _ => rfl, by rw [ho]; exact .nothing, rfl, rfl⟩
    | some b =>
      obtain ⟨hd, ht, hsame, hh⟩ := hb
      dsimp only
      rw [ht, hd]
      refine ⟨hclear, hsame, ?_, ?_, rfl, rfl⟩
      · exact fun h => absurd h (hh blank).ne_nothing
      · rw [OpeningState.push, ho]
        exact .one (hh blank)

/-! ### Lines after a paragraph -/

section

variable {s : OpeningState} {f : Frame} {ps : List Bytes} (hc : s.cursor = .front number start (l :: ls))
  (ho : s.opened = []) (hlast : s.last = some f) (hin : s.lastIsInHolder = true)
  (hcont : s.continuable = true) (hf : Holds source f (.paragraph ps))
include hc ho hcont

include hlast hin hf

end

end MarkdownTidy.Plain
