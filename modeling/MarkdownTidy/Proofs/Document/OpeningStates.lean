import MarkdownTidy.Proofs.Document.BlockSteps
import MarkdownTidy.Proofs.Document.Spans

/-! Where rules are tried: the states that reading the blocks of a source passes through, line by line and
on each line block by block. In all of them the position lies on the source, and a rule that is tried for
the document itself sees a line without padding. -/

namespace MarkdownTidy

/-! ### Positions on the source -/

structure SourceLine.On (source : Bytes) (l : SourceLine) : Prop where
  isPrefix : l.text <+: source.drop l.start
  start_le : l.start ≤ source.length
  unbroken : Bytes.newline ∉ l.text.dropLast

lemma SourceLine.On.stop_le {source : Bytes} {l : SourceLine} (h : l.On source) :
    l.start + l.text.length ≤ source.length := by
  have hlen := h.isPrefix.length_le
  have hstart := h.start_le
  rw [List.length_drop] at hlen
  omega

lemma SourceLine.On.behind {source : Bytes} {l : SourceLine} (h : l.On source) :
    SourceLine.On source ⟨l.start + l.text.length, []⟩ :=
  ⟨List.nil_prefix, h.stop_le, List.not_mem_nil⟩

lemma SourceLine.On.newline_notMem_slice {source : Bytes} {l : SourceLine} (h : l.On source) {start stop : Nat}
    (hstart : l.start ≤ start) (hstop : stop ≤ l.start + l.text.length)
    (hlast : l.text.getLast? = some Bytes.newline → stop < l.start + l.text.length) :
    Bytes.newline ∉ Bytes.slice source start stop := by
  obtain ⟨r, hr⟩ := h.isPrefix
  obtain ⟨k, rfl⟩ := Nat.exists_eq_add_of_le hstart
  rcases Nat.le_total stop (l.start + k) with hle | hle
  · simp [Bytes.slice, Nat.sub_eq_zero_of_le hle]
  · obtain ⟨m, rfl⟩ := Nat.exists_eq_add_of_le hle
    have hslice : Bytes.slice source (l.start + k) (l.start + k + m) = (l.text.take (k + m)).drop k := by
      rw [Bytes.slice, ← List.drop_drop, ← hr, Nat.add_sub_cancel_left, List.drop_append_of_le_length (by omega),
        List.take_append_of_le_length (by rw [List.length_drop]; omega), List.take_drop]
    rw [hslice]
    intro hmem
    have hmem := List.drop_subset _ _ hmem
    by_cases hend : l.text.getLast? = some Bytes.newline
    · refine h.unbroken ?_
      rw [List.dropLast_eq_take]
      have hlt := hlast hend
      exact List.take_subset_take_left _ (by omega) hmem
    · have hmem := List.take_subset _ _ hmem
      have hne := List.ne_nil_of_mem hmem
      rw [← List.dropLast_append_getLast hne, List.mem_append, List.mem_singleton] at hmem
      rcases hmem with hmem | hmem
      · exact h.unbroken hmem
      · exact hend (by rw [List.getLast?_eq_some_getLast hne, hmem])

lemma sourceLines_on {source : Bytes} {start : Nat} {ls : List Bytes} (hs : start ≤ source.length)
    (h : source.drop start = ls.flatten) (hn : ∀ t ∈ ls, Bytes.newline ∉ t.dropLast) :
    ∀ l ∈ sourceLines start ls, l.On source := by
  induction ls generalizing start with
  | nil => simp [sourceLines]
  | cons t ls ih =>
    rw [List.forall_mem_cons] at hn
    have ht : SourceLine.On source ⟨start, t⟩ := ⟨h ▸ List.prefix_append _ _, hs, hn.1⟩
    rw [sourceLines]
    rintro l (_ | ⟨_, hl⟩)
    · exact ht
    · refine ih ht.stop_le ?_ hn.2 l hl
      rw [← List.drop_drop, h, List.flatten_cons, List.drop_left]

namespace LineCursor

structure On (source : Bytes) (c : LineCursor) : Prop where
  line : c.line.On source
  taken : c.taken ≤ c.line.text.length
  later : ∀ l ∈ c.later, l.On source

variable {source : Bytes} {c : LineCursor}

lemma on_ofSource (source : Bytes) : (ofSource source).On source := by
  have hlines : ∀ l ∈ sourceLines 0 (Bytes.lines source), l.On source :=
    sourceLines_on (Nat.zero_le _) (Bytes.flatten_lines source).symm fun _ => Bytes.newline_notMem_dropLast_of_lines
  rw [ofSource]
  split
  · exact ⟨⟨List.nil_prefix, Nat.zero_le _, List.not_mem_nil⟩, le_rfl, by simp⟩
  · rename_i l ls hl
    rw [hl] at hlines
    exact ⟨hlines l List.mem_cons_self, Nat.zero_le _, fun k hk => hlines k (List.mem_cons_of_mem _ hk)⟩

lemma On.nextLine (h : c.On source) : c.nextLine.On source := by
  have hlater := h.later
  rw [LineCursor.nextLine]
  split
  · exact ⟨h.line.behind, le_rfl, by simp⟩
  · rename_i l ls hl
    rw [hl] at hlater
    exact ⟨hlater l List.mem_cons_self, Nat.zero_le _, fun k hk => hlater k (List.mem_cons_of_mem _ hk)⟩

lemma On.go {number taken padding n : Nat} {line : SourceLine} {later : List SourceLine}
    (hline : line.On source) (htaken : taken ≤ line.text.length) (hlater : ∀ l ∈ later, l.On source) :
    (advance.go number line taken padding n later).On source := by
  induction later generalizing number line taken padding n with
  | nil =>
    rw [advance.go]
    split
    · exact ⟨hline, htaken, hlater⟩
    · simp only
      split
      · exact ⟨hline, by simp only; omega, hlater⟩
      · split
        · exact ⟨hline.behind, le_rfl, hlater⟩
        · exact ⟨hline, le_rfl, hlater⟩
  | cons l ls ih =>
    rw [advance.go]
    split
    · exact ⟨hline, htaken, hlater⟩
    · simp only
      split
      · exact ⟨hline, by simp only; omega, hlater⟩
      · exact ih (hlater l List.mem_cons_self) (Nat.zero_le _) fun k hk =>
          hlater k (List.mem_cons_of_mem _ hk)

lemma On.advance (h : c.On source) (n : Nat) : (c.advance n).On source :=
  On.go h.line h.taken h.later

lemma On.advancePadded (h : c.On source) (n padding : Nat) : (c.advancePadded n padding).On source := by
  have ha := h.advance n
  rw [LineCursor.advancePadded]
  split
  · exact ⟨ha.line, ha.taken, ha.later⟩
  · exact ha

lemma On.toLastByte (h : c.On source) : c.toLastByte.On source := h.advance _

lemma padding_advance (h : c.padding = 0) (n : Nat) : (c.advance n).padding = 0 := by
  have hgo : ∀ number line taken padding n later, padding = 0 →
      (advance.go number line taken padding n later).padding = 0 := by
    intro number line taken padding n later hp
    induction later generalizing number line taken padding n with
    | nil =>
      rw [advance.go]
      split
      · simp only; omega
      · simp only
        split
        · rfl
        · split <;> rfl
    | cons l ls ih =>
      rw [advance.go]
      split
      · simp only; omega
      · simp only
        split
        · rfl
        · exact ih _ _ _ _ _ rfl
  exact hgo _ _ _ _ _ _ h

lemma padding_nextLine (c : LineCursor) : c.nextLine.padding = 0 := by
  rw [LineCursor.nextLine]
  split <;> rfl

end LineCursor

lemma LineCursor.On.reaches {source : Bytes} {c d : LineCursor} (h : c.On source) (hd : c.Reaches d) : d.On source := by
  induction hd with
  | here => exact h
  | advance _ n ih => exact ih.advance n
  | padded _ n padding ih => exact ih.advancePadded n padding

lemma Opening.firstOf_on {source : Bytes} {place : Place} {ctx ctx' : BlockContext} {c : LineCursor} {rs : List BlockRule}
    {o : Opened} (h : c.On source) (ho : Opening.firstOf source place c ctx rs = (ctx', some o)) : o.cursor.On source := by
  obtain ⟨r, -, hr⟩ := Opening.opens_of_firstOf ho
  exact h.reaches hr.reaches

/-! ### Going on with open blocks -/

def Verdict.On (source : Bytes) (c : LineCursor) : Verdict → Prop
  | .close _ d => d.On source ∧ (c.padding = 0 → d.padding = 0)
  | .keep _ d _ => d.On source

lemma Verdict.Of.on {source : Bytes} {c : LineCursor} {f : Frame} {v : Verdict} (hv : v.Of c f) (h : c.On source) :
    v.On source c := by
  cases hv with
  | close => exact ⟨h, id⟩
  | closeBehind n | closeHtml _ n => exact ⟨h.advance n, fun hp => LineCursor.padding_advance hp n⟩
  | keep hd | addLine hd => exact h.reaches hd

def Match.On (source : Bytes) : Match → Prop
  | .ended => True
  | .taken _ => True
  | .inside frames d _ => d.On source ∧ frames ≠ []
  | .upTo kept _ d => d.On source ∧ (kept = [] → d.padding = 0)

lemma matchFrames_on {source : Bytes} (last : Bool) (number : Nat) (ctx : BlockContext) {c : LineCursor}
    (depth : Nat) {kept : List Frame} (left : List Frame) (h : c.On source)
    (hp : kept = [] → c.padding = 0) :
    (matchFrames source last number ctx c depth kept left).2.On source := by
  induction left generalizing ctx c depth kept with
  | nil => trivial
  | cons f inner ih =>
    rw [matchFrames]
    split
    · trivial
    · rename_i line _
      simp only
      split
      · exact ⟨h, hp⟩
      · have hblock := (@Continuing.of_block source c f last
          { ctx with stats := ⟨number, depth, Bytes.isBlank line⟩ :: ctx.stats } inner).on h
        split
        · rename_i heq
          rw [heq] at hblock
          exact ⟨hblock.1, fun hk => hblock.2 (hp hk)⟩
        · rename_i heq
          rw [heq] at hblock
          split
          · exact ⟨hblock, by simp⟩
          · exact ih _ _ hblock (by simp)

/-! ### Opening the blocks of a line -/

namespace OpeningState

variable {g : Grammar} {source : Bytes} {blank : Bool}

/-- Where blocks begin to be opened after the open blocks `kept`, with those of `left` open inside. -/
def start (ctx : BlockContext) (c : LineCursor) (kept left : List Frame) : OpeningState :=
  let last := if left.isEmpty then kept.getLast? else left.getLast?
  { context := ctx, cursor := c, holder := Holder.ofFrames kept left, last := last,
    lastIsInHolder := left.length == 1,
    continuable := (last.map (·.block.isParagraph)).getD false }

lemma openBlocks_eq_run (ctx : BlockContext) (c : LineCursor) (kept left : List Frame) :
    openBlocks g source blank ctx c (Holder.ofFrames kept left)
        (if left.isEmpty then kept.getLast? else left.getLast?) (left.length == 1) =
      run g source blank (2 * c.rest.length + 2) (start ctx c kept left) := rfl

structure On (source : Bytes) (s : OpeningState) : Prop where
  cursor : s.cursor.On source
  padding : s.holder = .document → s.cursor.padding = 0

lemma holder_push_ne (s : OpeningState) (o : Opened) (f : Frame) : (s.push o f).holder ≠ .document := by
  rw [push, Holder.ofBlock.eq_def]
  cases o.block <;> simp

lemma On.push {o : Opened} (ho : o.cursor.On source) (s : OpeningState) (f : Frame) : (s.push o f).On source :=
  ⟨ho, fun hf => absurd hf (holder_push_ne s o f)⟩

lemma Steps.on {s : OpeningState} {r : Bool × OpeningState} (hr : Steps g source blank s r) (h : s.On source) :
    r.2.On source := by
  cases hr with
  | ended => exact h
  | silent | defines => exact ⟨h.cursor, h.padding⟩
  | opens _ hf | underlines _ hf => exact .push (Opening.firstOf_on h.cursor hf) _ _

lemma On.run {s : OpeningState} (h : s.On source) (fuel : Nat) : (run g source blank fuel s).On source :=
  run_induction Steps.on h fuel

lemma on_start {ctx : BlockContext} {c : LineCursor} {kept left : List Frame} (h : c.On source)
    (hp : kept = [] → c.padding = 0) : (start ctx c kept left).On source := by
  refine ⟨h, fun hd => hp ?_⟩
  have hd' : Holder.ofFrames kept left = .document := hd
  rw [Holder.ofFrames] at hd'
  split at hd'
  · rename_i hnone
    exact List.getLast?_eq_none_iff.mp hnone
  · split at hd' <;> cases hd'

end OpeningState

namespace BlockState

/-- Reads one line, and tells whether to go on with the next. -/
def step (g : Grammar) (source : Bytes) (s : BlockState) : Bool × BlockState :=
  if s.frames.isEmpty then
    let (c, skipped) := skipBlankLines (s.cursor.later.length + 1) s.cursor 0
    match c.peek? with
    | none => (false, s)
    | some _ =>
      let ctx := if skipped != 0 then { s.context with stats := [] } else s.context
      let s := openAfter g source { s with context := ctx } (ctx.blankBefore c.number 0) [] [] c
      if s.frames.isEmpty then (false, s) else (true, { s with cursor := s.cursor.nextLine })
  else
    match s.cursor.peek? with
    | none => (false, s.finish g source)
    | some _ =>
      let s := s.readLine g source
      (true, { s with cursor := s.cursor.nextLine })

def opening? (source : Bytes) (s : BlockState) : Option OpeningState :=
  if s.frames.isEmpty then
    let (c, skipped) := skipBlankLines (s.cursor.later.length + 1) s.cursor 0
    match c.peek? with
    | none => none
    | some _ =>
      some (.start (if skipped != 0 then { s.context with stats := [] } else s.context) c [] [])
  else
    let lastIsParagraph := (s.frames.getLast?.map (·.block.isParagraph)).getD false
    match matchFrames source lastIsParagraph s.cursor.number s.context s.cursor 0 [] s.frames with
    | (_, .ended) => none
    | (_, .taken _) => none
    | (ctx, .inside frames c _) => some (.start ctx c frames [])
    | (ctx, .upTo kept left c) => some (.start ctx c kept left)

variable {g : Grammar} {source : Bytes}

lemma readLines_succ (fuel : Nat) (s : BlockState) :
    readLines g source (fuel + 1) s =
      if (s.step g source).1 then readLines g source fuel (s.step g source).2
      else (s.step g source).2 := by
  simp only [readLines, step]
  cases s.frames.isEmpty with
  | true =>
    simp only [if_true]
    rcases skipBlankLines (s.cursor.later.length + 1) s.cursor 0 with ⟨c, skipped⟩
    cases c.peek? with
    | none => rfl
    | some line =>
      simp only
      generalize openAfter g source _ _ [] [] c = t
      cases t.frames.isEmpty <;> rfl
  | false => cases s.cursor.peek? <;> rfl

structure On (source : Bytes) (s : BlockState) : Prop where
  cursor : s.cursor.On source
  padding : s.cursor.padding = 0

lemma skipBlankLines_on {c : LineCursor} (h : c.On source) (hp : c.padding = 0) (fuel n : Nat) :
    (skipBlankLines fuel c n).1.On source ∧ (skipBlankLines fuel c n).1.padding = 0 := by
  induction fuel generalizing c n with
  | zero => exact ⟨h, hp⟩
  | succ fuel ih =>
    rw [skipBlankLines]
    split
    · exact ⟨h, hp⟩
    · split
      · exact ih h.nextLine (LineCursor.padding_nextLine c) (n + 1)
      · exact ⟨h, hp⟩

lemma On.opening {s : BlockState} (h : s.On source) {o : OpeningState}
    (ho : s.opening? source = some o) : o.On source := by
  rw [opening?] at ho
  split at ho
  · have hskip := skipBlankLines_on h.cursor h.padding (s.cursor.later.length + 1) 0
    simp only at ho
    split at ho
    · cases ho
    · cases ho
      exact OpeningState.on_start hskip.1 fun _ => hskip.2
  · have hmatch := matchFrames_on ((s.frames.getLast?.map (·.block.isParagraph)).getD false)
      s.cursor.number s.context 0 s.frames h.cursor (fun _ : ([] : List Frame) = [] => h.padding)
    simp only at ho
    split at ho
    · cases ho
    · cases ho
    · rename_i heq
      rw [heq] at hmatch
      cases ho
      exact OpeningState.on_start hmatch.1 fun hk => absurd hk hmatch.2
    · rename_i heq
      rw [heq] at hmatch
      cases ho
      exact OpeningState.on_start hmatch.1 hmatch.2

lemma cursor_openAfter (s : BlockState) (blank : Bool) (kept left : List Frame) (c : LineCursor) :
    (openAfter g source s blank kept left c).cursor =
      (OpeningState.run g source blank (2 * c.rest.length + 2)
        (.start s.context c kept left)).cursor := by
  have hattach : ∀ (t : BlockState) nodes, (t.attach kept nodes).cursor = t.cursor := by
    intro t nodes
    rw [attach]
    split <;> rfl
  rw [openAfter, OpeningState.openBlocks_eq_run]
  simp only
  split
  · rfl
  · simp only [hattach]

lemma cursor_step {s : BlockState} (hmore : (s.step g source).1 = true) :
    (∃ o blank fuel, s.opening? source = some o ∧
        (s.step g source).2.cursor = (OpeningState.run g source blank fuel o).cursor.nextLine) ∨
      s.opening? source = none ∧ (s.step g source).2.cursor = s.cursor.nextLine := by
  revert hmore
  simp only [step, opening?]
  cases s.frames.isEmpty with
  | true =>
    simp only [if_true]
    rcases skipBlankLines (s.cursor.later.length + 1) s.cursor 0 with ⟨c, skipped⟩
    cases c.peek? with
    | none => exact fun hmore => absurd hmore (by simp)
    | some line =>
      generalize (if skipped != 0 then { s.context with stats := [] } else s.context) = ctx
      simp only
      split
      · exact fun hmore => absurd hmore (by simp)
      · exact fun _ => Or.inl ⟨_, _, _, rfl, congrArg LineCursor.nextLine (cursor_openAfter ..)⟩
  | false =>
    simp only [Bool.false_eq_true, if_false]
    cases s.cursor.peek? with
    | none => exact fun hmore => absurd hmore (by simp)
    | some line =>
      intro _
      simp only [readLine]
      rcases matchFrames source _ _ s.context s.cursor 0 [] s.frames with ⟨ctx, m⟩
      cases m with
      | ended => exact Or.inr ⟨rfl, rfl⟩
      | taken frames => exact Or.inr ⟨rfl, rfl⟩
      | inside frames c depth =>
        exact Or.inl ⟨_, _, _, rfl, congrArg LineCursor.nextLine (cursor_openAfter ..)⟩
      | upTo kept left c =>
        exact Or.inl ⟨_, _, _, rfl, congrArg LineCursor.nextLine (cursor_openAfter ..)⟩

lemma On.step {s : BlockState} (h : s.On source) (hmore : (s.step g source).1 = true) :
    (s.step g source).2.On source := by
  obtain ⟨o, blank, fuel, ho, hcursor⟩ | ⟨-, hcursor⟩ := cursor_step hmore
  · refine ⟨?_, ?_⟩ <;> rw [hcursor]
    · exact ((h.opening ho).run fuel).cursor.nextLine
    · exact LineCursor.padding_nextLine _
  · refine ⟨?_, ?_⟩ <;> rw [hcursor]
    · exact h.cursor.nextLine
    · exact LineCursor.padding_nextLine _

/-- The states in front of each line while the blocks of a source are read. -/
inductive Reached (g : Grammar) (names : MarkdownAttributes) (source : Bytes) : BlockState → Prop where
  | start : Reached g names source { context := { names := names }, cursor := .ofSource source }
  | step {s : BlockState} (h : Reached g names source s) (hmore : (s.step g source).1 = true) :
      Reached g names source (s.step g source).2

lemma Reached.on {names : MarkdownAttributes} {s : BlockState} (h : Reached g names source s) :
    s.On source := by
  induction h with
  | start =>
    refine ⟨LineCursor.on_ofSource source, ?_⟩
    simp only [LineCursor.ofSource]
    split <;> rfl
  | step _ hmore ih => exact ih.step hmore

end BlockState

/-- The states in which rules are tried while the blocks of a source are read. -/
inductive OpeningState.Reached (g : Grammar) (names : MarkdownAttributes) (source : Bytes) :
    OpeningState → Prop where
  | line {s : BlockState} {o : OpeningState} (h : BlockState.Reached g names source s)
      (ho : s.opening? source = some o) : Reached g names source o
  | step {o : OpeningState} (h : Reached g names source o) (blank : Bool)
      (hmore : (o.step g source blank).1 = true) : Reached g names source (o.step g source blank).2

lemma OpeningState.Reached.on {g : Grammar} {names : MarkdownAttributes} {source : Bytes}
    {o : OpeningState} (h : OpeningState.Reached g names source o) : o.On source := by
  induction h with
  | line hs ho => exact hs.on.opening ho
  | step _ blank hmore ih => exact (OpeningState.steps _).on ih

end MarkdownTidy
