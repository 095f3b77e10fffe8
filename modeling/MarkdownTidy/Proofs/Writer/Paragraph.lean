import MarkdownTidy.Proofs.Text.Trimming
import MarkdownTidy.Proofs.Writer.FirstBlock

/-! What a document with a single paragraph is written as: the text of the paragraph, without the white space
around it, on lines of its own. -/

namespace MarkdownTidy.Writer

/-! ### Nothing fails -/

inductive Written.Whole : Written → Prop
  | mk {s : Bytes} {tight : Bool} {ws : List Written} (h : ∀ w ∈ ws, Whole w) : Whole (.mk (.ok s) tight ws)

lemma Written.Whole.exists_own {w : Written} (h : w.Whole) : ∃ s, w.own = .ok s := by
  cases h
  exact ⟨_, rfl⟩

lemma Written.Whole.children {w : Written} (h : w.Whole) : ∀ v ∈ w.children, v.Whole := by
  cases h with
  | mk h => exact h

section

variable {ws : List Written} (h : ∀ w ∈ ws, w.Whole)
include h

lemma exists_joinInlines : ∃ s, joinInlines ws = .ok s := by
  induction ws with
  | nil => exact ⟨[], rfl⟩
  | cons w ws ih =>
    rw [List.forall_mem_cons] at h
    obtain ⟨s, hs⟩ := h.1.exists_own
    obtain ⟨t, ht⟩ := ih h.2
    exact ⟨s ++ t, by rw [joinInlines, hs, ht]⟩

lemma exists_joinBlocks (tight : Bool) : ∃ s, joinBlocks tight ws = .ok s := by
  have hparts : ∃ ps, blockParts ws = .ok ps := by
    induction ws with
    | nil => exact ⟨[], rfl⟩
    | cons w ws ih =>
      rw [List.forall_mem_cons] at h
      obtain ⟨s, hs⟩ := h.1.exists_own
      obtain ⟨ps, hps⟩ := ih h.2
      exact ⟨_, by rw [blockParts, hs, hps]⟩
  obtain ⟨ps, hps⟩ := hparts
  exact ⟨_, by rw [joinBlocks, hps]; rfl⟩

lemma exists_items (marker : Nat → Bytes) (i : Nat) : ∃ ls, items marker i ws = .ok ls := by
  induction ws generalizing i with
  | nil => exact ⟨[], rfl⟩
  | cons w ws ih =>
    rw [List.forall_mem_cons] at h
    obtain ⟨s, hs⟩ := exists_joinBlocks h.1.children w.tight
    obtain ⟨ls, hls⟩ := ih h.2 (i + 1)
    exact ⟨_, by rw [items, hs, hls]; rfl⟩

lemma exists_tableRows : ∃ rows, tableRows ws = .ok rows := by
  induction ws with
  | nil => exact ⟨[], rfl⟩
  | cons w ws ih =>
    rw [List.forall_mem_cons] at h
    obtain ⟨rows, hrows⟩ := ih h.2
    have hcells : ∀ cells : List Written, (∀ c ∈ cells, c.Whole) →
        ∃ ls, cells.mapM (fun cell => joinInlines cell.children) = .ok ls := by
      intro cells hc
      induction cells with
      | nil => exact ⟨[], rfl⟩
      | cons c cells ih =>
        rw [List.forall_mem_cons] at hc
        obtain ⟨s, hs⟩ := exists_joinInlines hc.1.children
        obtain ⟨ls, hls⟩ := ih hc.2
        exact ⟨_, by rw [List.mapM_cons, hs, hls]; rfl⟩
    obtain ⟨cells, hcells⟩ := hcells w.children h.1.children
    exact ⟨_, by rw [tableRows, hcells, hrows]; rfl⟩

lemma exists_usual (env : Environment) (at_ : Setting) (n : Node) : ∃ s, usual env at_ n ws = .ok s := by
  obtain ⟨inlines, hinlines⟩ := exists_joinInlines h
  obtain ⟨blocks, hblocks⟩ := exists_joinBlocks h false
  unfold usual
  simp only [hinlines, hblocks]
  cases n.kind
  case thematicBreak => simp only; split <;> exact ⟨_, rfl⟩
  case list mark start tight =>
    obtain ⟨ls, hls⟩ := exists_items h
      (fun i => if mark == byte '.' || mark == byte ')' then
        decimal (if env.style.incrementOrdered then start + i else start) ++ [mark]
      else bullet env.style at_.before) 0
    exact ⟨_, by simp only [list, hls]; rfl⟩
  case listItem offset =>
    have hitem : ∀ tight, ∃ s, (joinBlocks tight ws).map (listItem env.style.bullet) = .ok s := by
      intro tight
      obtain ⟨s, hs⟩ := exists_joinBlocks h tight
      exact ⟨_, by rw [hs]; rfl⟩
    exact hitem _
  case table alignments =>
    obtain ⟨rows, hrows⟩ := exists_tableRows h
    exact ⟨_, by simp only [hrows]; rfl⟩
  case footnoteLink index references position => simp only; split <;> exact ⟨_, rfl⟩
  all_goals exact ⟨_, rfl⟩

end

variable {env : Environment}

mutual

lemma whole_writeNode (hr : env.registry = []) (at_ : Setting) : (n : Node) → (writeNode env at_ n).Whole
  | .mk info children => by
    have hchildren := whole_writeNodes hr info.kind [] children
    obtain ⟨s, hs⟩ := exists_usual hchildren env at_ (.mk info children)
    rw [writeNode, hr]
    simp only [List.find?_nil, hs]
    exact .mk hchildren

lemma whole_writeNodes (hr : env.registry = []) (parent : Kind) (before : List Node) :
    (ns : List Node) → ∀ w ∈ writeNodes env parent before ns, w.Whole
  | [] => by simp [writeNodes]
  | n :: ns => by
    rw [writeNodes, List.forall_mem_cons]
    exact ⟨whole_writeNode hr _ n, whole_writeNodes hr parent (n :: before) ns⟩

end

/-! ### Text without white space around it -/

lemma exists_lines_trimSpace {s : Bytes} (h : Text.trimSpace s ≠ []) :
    ∃ ls, Bytes.unlines ls = Text.trimSpace s ++ [Bytes.newline] ∧ (∀ l ∈ ls, Bytes.newline ∉ l) ∧
      (∀ l ∈ ls.head?, ∃ b ∈ l.head?, Bytes.isSpace b = false) ∧ ∀ l ∈ ls.getLast?, Bytes.isBlank l = false := by
  obtain ⟨ms, l, hms, hl, hsplit⟩ := Bytes.exists_unlines_append (Text.trimSpace s)
  refine ⟨ms ++ [l], by simp [Bytes.unlines_append, hsplit], ?_, ?_, ?_⟩
  · intro m hm
    rcases List.mem_append.mp hm with hm | hm
    · exact hms m hm
    · rwa [List.mem_singleton.mp hm]
  · cases hms' : ms ++ [l] with
    | nil => simp at hms'
    | cons m rest =>
      have hhead : Text.trimSpace s ++ [Bytes.newline] = m ++ Bytes.newline :: Bytes.unlines rest := by
        rw [← Bytes.unlines_cons, ← hms', hsplit]
        simp [Bytes.unlines_append]
      rintro _ ⟨⟩
      cases hs : Text.trimSpace s with
      | nil => contradiction
      | cons b t =>
        have hb := @Text.isSpace_head?_trimSpace s b (by rw [hs]; rfl)
        rw [hs] at hhead
        cases m with
        | nil =>
          obtain rfl : b = Bytes.newline := by simpa using (List.cons.inj hhead).1
          cases hb
        | cons c m =>
          obtain rfl : b = c := (List.cons.inj hhead).1
          exact ⟨b, rfl, hb⟩
  · intro m hm
    obtain rfl : l = m := by simpa using hm
    have hne : l ≠ [] := by
      rintro rfl
      rw [List.append_nil] at hsplit
      have hms' : ms ≠ [] := by
        rintro rfl
        exact h hsplit
      have hlast := @Text.isSpace_getLast?_trimSpace s Bytes.newline (by rw [hsplit, Bytes.unlines_eq_join hms']; simp)
      cases hlast
    obtain ⟨b, hb⟩ : ∃ b, l.getLast? = some b := ⟨_, List.getLast?_eq_some_getLast hne⟩
    have hspace := @Text.isSpace_getLast?_trimSpace s b (by rw [hsplit, List.getLast?_append_of_ne_nil _ hne, hb])
    rw [Bytes.isBlank, List.all_eq_false]
    exact ⟨b, List.mem_of_getLast? hb, by simp [hspace]⟩

/-! ### A document with one paragraph -/

lemma write_paragraph (style : Style) (source : Bytes) {doc : Node} (hk : doc.kind = .document)
    (h : doc.children.map Node.kind = [.paragraph]) :
    ∃ text, write style [] source doc =
      .ok (if (Text.trimSpace text).isEmpty then [] else Text.trimSpace text ++ [Bytes.newline]) := by
  obtain ⟨info, children⟩ := doc
  obtain ⟨⟨info', ns⟩, rfl⟩ : ∃ n, children = [n] := by
    rw [← List.length_eq_one_iff, ← @List.length_map _ _ children Node.kind]
    exact congrArg List.length h
  have hk : info.kind = .document := hk
  have hp : info'.kind = .paragraph := (List.cons.inj h).1
  generalize henv : (⟨style, [], source, labelsIn (.mk info [.mk info' ns])⟩ : Environment) = env
  have hr : env.registry = [] := by rw [← henv]
  obtain ⟨text, htext⟩ := exists_joinInlines (whole_writeNodes hr .paragraph [] ns)
  have htrim : trimNewlines (Text.trimSpace text) = Text.trimSpace text := by
    apply Bytes.trimRight_eq_self
    intro b hb
    have hspace := Text.isSpace_getLast?_trimSpace hb
    rw [beq_eq_false_iff_ne]
    rintro rfl
    cases hspace
  have hparagraph : (writeNode env ⟨.document, [], none⟩ (.mk info' ns)).own = .ok (Text.trimSpace text) := by
    rw [own_writeNode (by rw [hr]; rfl)]
    simp only [usual, Node.kind, Node.info, Node.children, hp, htext]
    rfl
  have hdocument : (writeNode env ⟨.document, [], none⟩ (.mk info [.mk info' ns])).own =
      .ok (Text.trimSpace text) := by
    rw [own_writeNode (by rw [hr]; rfl)]
    simp only [usual, Node.kind, Node.info, Node.children, hk, joinBlocks, writeNodes, blockParts, List.head?_nil,
      hparagraph, htrim]
    cases Text.trimSpace text <;> simp [Except.map, Bytes.join]
  refine ⟨text, ?_⟩
  simp only [write, henv, hdocument, Except.map, htrim]

end MarkdownTidy.Writer
