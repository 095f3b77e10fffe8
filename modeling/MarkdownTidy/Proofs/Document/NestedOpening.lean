import MarkdownTidy.Proofs.Document.LinePieces

/-! What a line opens inside of containers: containers in containers, each taking some of the line, and in the innermost
at most one block of another kind. -/

namespace MarkdownTidy

open Writer (isIndent)

namespace OpenBlock

def isContainer : OpenBlock → Bool
  | blockquote | list .. | listItem _ => true
  | _ => false

def IsLeaf : OpenBlock → Prop
  | paragraph | heading _ | thematicBreak | codeBlock | fencedCode .. => True
  | html type _ => type = 1 ∨ 6 ≤ type
  | _ => False

end OpenBlock

lemma OpenBlock.isContainer_of_isList {b : OpenBlock} (h : b.isList = true) : b.isContainer = true := by
  cases b <;> first | rfl | cases h

structure Steady (ctx ctx' : BlockContext) : Prop where
  footnotes : ctx'.footnotes = ctx.footnotes
  emptyItem : ctx'.emptyItem = true → ctx.emptyItem = true

namespace Steady

variable {ctx ctx' ctx'' : BlockContext}

lemma refl (ctx : BlockContext) : Steady ctx ctx := ⟨rfl, id⟩

lemma trans (h : Steady ctx ctx') (h' : Steady ctx' ctx'') : Steady ctx ctx'' :=
  ⟨h'.footnotes.trans h.footnotes, h.emptyItem ∘ h'.emptyItem⟩

lemma of_passes (h : ctx.Passes ctx') : Steady ctx ctx' := ⟨h.footnotes, h.emptyItem⟩

lemma settleParagraph (g : Grammar) (source : Bytes) (ctx : BlockContext) (lines : List Span) (blank : Bool) :
    Steady ctx (MarkdownTidy.settleParagraph g source ctx lines blank).1 := by
  rw [MarkdownTidy.settleParagraph]
  dsimp only
  split
  · exact ⟨rfl, id⟩
  · split <;> exact ⟨rfl, id⟩

end Steady

/-! ### List markers -/

lemma ListMarker.rest_of_spaces {k : Nat} {x : Bytes} {m : ListMarker} (hx : x.head? ≠ some (byte ' '))
    (h : read? (Bytes.spaces k ++ x) = some m) : ∃ m', read? x = some m' ∧ m'.rest = m.rest := by
  have htake : ∀ k, (Bytes.spaces k ++ x).takeWhile (· == byte ' ') = Bytes.spaces k := by
    intro k
    rw [List.takeWhile_append_of_pos fun c hc => by simp [Bytes.eq_of_mem_spaces hc]]
    cases x with
    | nil => simp
    | cons b x =>
      have hb : b ≠ byte ' ' := by simpa using hx
      simp [hb]
  have hzero := htake 0
  rw [Bytes.spaces, List.replicate_zero, List.nil_append] at hzero
  simp only [read?, htake, Bytes.length_spaces, Bytes.drop_spaces] at h
  have hfinish : ∀ {ordered : Bool} {width number : Nat} {mark : UInt8} {rest : Bytes},
      finish ordered k width number mark rest = some m →
        ∃ m', finish ordered 0 width number mark rest = some m' ∧ m'.rest = m.rest := by
    intro ordered width number mark rest hf
    cases hzero : finish ordered 0 width number mark rest with
    | none =>
      rw [Plain.finish_eq_none_iff, ← Plain.finish_eq_none_iff, hf] at hzero
      cases hzero
    | some m' =>
      obtain ⟨rfl, -⟩ := finish_eq_some hf
      obtain ⟨rfl, -⟩ := finish_eq_some hzero
      exact ⟨_, rfl, rfl⟩
  simp only [read?, hzero, List.length_nil, List.drop_zero]
  rw [if_neg (by omega)]
  split at h
  · cases h
  · cases x with
    | nil => cases h
    | cons b x =>
      simp only at h ⊢
      split at h
      · rename_i hb
        rw [if_pos hb]
        exact hfinish h
      · rename_i hb
        rw [if_neg hb]
        split at h
        · cases h
        · rename_i hdigits
          rw [if_neg hdigits]
          split at h
          · split at h
            · rename_i hd
              rw [if_pos hd]
              exact hfinish h
            · cases h
          · cases h

lemma exists_line_of_append {y z w : Bytes} {b : UInt8} (h : z ++ [b] = y ++ w) (hw : w ≠ []) :
    ∃ w', w = w' ++ [b] ∧ z = y ++ w' := by
  rcases List.eq_nil_or_concat w with rfl | ⟨w', a, rfl⟩
  · contradiction
  · rw [List.concat_eq_append, ← List.append_assoc] at h
    obtain ⟨rfl, hb⟩ := List.append_inj' h rfl
    obtain rfl := List.singleton_inj.mp hb
    exact ⟨w', List.concat_eq_append, rfl⟩

section

variable {source z : Bytes} {c c₀ : LineCursor} {m : ListMarker} (h : c.Left source c₀ z)

include h

lemma LineCursor.Left.exists_marker (hm : ListMarker.read? c.rest = some m) :
    ∃ k b body, z ++ [Bytes.newline] = Bytes.spaces k ++ (b :: body ++ m.rest) ∧ m.stop = c.padding + k + (body.length + 1) ∧
      k ≤ 3 ∧ Bytes.isSpace b = false ∧ m.indent = c.padding + k := by
  obtain ⟨b, body, hline, hstop, hindent, -, hspace, -⟩ := ListMarker.exists_of_read? hm
  rw [h.rest_eq] at hline
  rcases Nat.le_total c.padding m.indent with hle | hle
  · obtain ⟨k, hk⟩ := Nat.exists_eq_add_of_le hle
    rw [hk, Bytes.spaces_add, List.append_assoc, List.append_cancel_left_eq] at hline
    exact ⟨k, b, body, hline, by omega, by omega, hspace, hk⟩
  · obtain ⟨k, hk⟩ := Nat.exists_eq_add_of_le hle
    rw [hk, Bytes.spaces_add, List.append_assoc, List.append_cancel_left_eq] at hline
    cases k with
    | zero => exact ⟨0, b, body, hline, by omega, by omega, hspace, by omega⟩
    | succ k =>
      rw [Bytes.spaces_succ, List.cons_append, List.cons_append, List.cons.injEq] at hline
      rw [← hline.1] at hspace
      cases hspace

lemma endsInMarker_of_read? (hm : ListMarker.read? c.rest = some m) (hempty : m.isEmpty = true) : EndsInMarker z := by
  obtain ⟨k, b, body, hline, -, hk, hspace, -⟩ := h.exists_marker hm
  obtain ⟨v, hv, rfl⟩ := exists_line_of_append hline (by simp)
  have hb : (v ++ [Bytes.newline]).head? ≠ some (byte ' ') := by
    rw [← hv]
    rintro hb
    obtain rfl : b = byte ' ' := by simpa using hb
    cases hspace
  have hrest : c.rest = Bytes.spaces (c.padding + k) ++ (v ++ [Bytes.newline]) := by
    rw [h.rest_eq, Bytes.spaces_add, List.append_assoc, List.append_assoc]
  rw [hrest] at hm
  obtain ⟨m', hm', hrest'⟩ := ListMarker.rest_of_spaces hb hm
  refine ⟨_, v, m', rfl, joint_of_forall fun a ha => ?_, hm', ?_⟩
  · rw [Bytes.eq_of_mem_spaces ha]
    rfl
  · rw [ListMarker.isEmpty, hrest']
    exact hempty

end

/-! ### What the rules open -/

/-- What a rule opens where a text is left of a line: a block of text, or a container. A container sees less of the
line, except that a list leaves the line to its item, and that nothing follows the marker of an empty item. -/
inductive Opening.Begins (source : Bytes) (place : Place) (c c₀ : LineCursor) (z : Bytes) (o : Opened) : Prop
  | leaf (hb : o.block.IsLeaf) (hd : o.descend = false) (hc : c₀.SameLine o.cursor)
  | list (hb : o.block.isList = true) (ht : o.takesParagraph = false) (hd : o.descend = true) (hc : o.cursor = c)
      (hp : place.lastIsList = false)
  | emptyItem (hb : o.block.isContainer = true) (ht : o.takesParagraph = false) (hd : o.descend = false)
      (hc : o.cursor = c) (he : EndsInMarker z)
  | container {z' : Bytes} (hb : o.block.isContainer = true) (ht : o.takesParagraph = false) (hd : o.descend = true)
      (hc : o.cursor.Left source c₀ z') (hz : Onward z z') (hlen : z'.length < z.length)
      (hblank : Bytes.isBlank z' = true → o.block = .blockquote)

lemma Indent.measure_pos {b : UInt8} (hb : isIndent b = true) (s : Bytes) (column : Nat) :
    0 < (measure (b :: s) column).1 := by
  rw [isIndent, Bool.or_eq_true, beq_iff_eq, beq_iff_eq] at hb
  rw [measure, measure.go]
  rcases hb with rfl | rfl
  · exact Plain.le_measure_go s column 1 1
  · refine lt_of_lt_of_le ?_ (Plain.le_measure_go s column (0 + tabWidth (column + 0)) 1)
    rw [tabWidth]
    omega

lemma ListMarker.gap_pos {m : ListMarker} (hempty : m.isEmpty = false) (hhead : ∀ b ∈ m.rest.head?, isIndent b = true) :
    0 < m.gap ∧ m.gap ≤ (Indent.measure m.rest m.stop).1 := by
  have hpos : 0 < (Indent.measure m.rest m.stop).1 := by
    rw [isEmpty] at hempty
    revert hempty hhead
    cases m.rest with
    | nil => exact fun hempty _ => absurd hempty (by decide)
    | cons b t => exact fun _ hhead => Indent.measure_pos (hhead b rfl) t _
  rw [gap, hempty, if_neg Bool.false_ne_true]
  dsimp only
  split <;> omega

lemma HtmlBlock.type_of_kind? {line : Bytes} {after : Bool} {type : Nat} (h : kind? line after = some type)
    (hfront : ∀ front ∈ ["<!", "<?"].map utf8, ¬ front <+: line.dropWhile (· == byte ' ')) : type = 1 ∨ 6 ≤ type := by
  have hmark : ∀ {m b : UInt8} {s t : Bytes}, ([byte '<', m] : Bytes) ∈ ["<!", "<?"].map utf8 →
      line.dropWhile (· == byte ' ') = b :: s → ¬ (b != byte '<') = true → (m :: t).isPrefixOf s = true → False := by
    intro m b s t hm hbody hb hprefix
    obtain rfl : b = byte '<' := by simpa using hb
    obtain ⟨u, rfl⟩ := List.isPrefixOf_iff_prefix.mp hprefix
    exact hfront _ hm ⟨t ++ u, by rw [hbody]; rfl⟩
  revert h
  fun_cases kind? line after with
  | case1 | case2 | case3 => exact fun h => by cases h
  | case4 => exact fun h => .inl (Option.some.inj h).symm
  | case5 _ _ _ _ hbody hangle _ hprefix => exact (hmark (m := byte '!') (by decide) hbody hangle hprefix).elim
  | case6 _ _ _ _ hbody hangle _ _ hprefix => exact (hmark (m := byte '?') (by decide) hbody hangle hprefix).elim
  | case7 _ _ _ _ hbody hangle _ _ _ hand =>
    exact (hmark (m := byte '!') (by decide) hbody hangle (Bool.and_eq_true_iff.mp hand).1).elim
  | case8 _ _ _ _ hbody hangle _ _ _ _ hprefix => exact (hmark (m := byte '!') (by decide) hbody hangle hprefix).elim
  | case9 | case10 => exact fun h => .inr (by cases h; decide)
  | case11 _ _ _ _ _ _ _ _ _ _ _ byTag | case12 _ _ _ _ _ _ _ _ _ _ _ byTag =>
    intro h
    simp only [byTag] at h
    split at h
    · split at h
      · exact .inr (by cases h; decide)
      · cases h
    · cases h

namespace Opening

section

variable {source z : Bytes} {c c₀ : LineCursor} {o : Opened} {place : Place} (h : c.Left source c₀ z)

include h

lemma head?_rest_of_read? (hn : Bytes.newline ∉ z) {m : ListMarker} (hm : ListMarker.read? c.rest = some m)
    (hempty : m.isEmpty = false) : ∀ a ∈ m.rest.head?, isIndent a = true := by
  obtain ⟨-, -, -, -, -, -, -, hrest⟩ := ListMarker.exists_of_read? hm
  obtain ⟨k, b, body, hline, -⟩ := h.exists_marker hm
  intro a ha
  rcases hrest a ha with rfl | rfl | rfl
  · obtain ⟨t, ht⟩ := List.head?_eq_some_iff.mp ha
    rw [← List.append_assoc, ht] at hline
    obtain ⟨w, hw, rfl⟩ := exists_line_of_append hline (List.cons_ne_nil _ _)
    cases w with
    | nil =>
      rw [ListMarker.isEmpty, ht, hw] at hempty
      cases hempty
    | cons a w =>
      rw [List.cons_append, List.cons.injEq] at hw
      rw [← hw.1] at hn
      exact absurd (List.mem_append_right _ List.mem_cons_self) hn
  · rfl
  · rfl

/-- An item that is not empty sees what stands on its line behind the marker and the gap. -/
lemma listItem_begins (hn : Bytes.newline ∉ z) {m : ListMarker} (hm : ListMarker.read? c.rest = some m)
    (hempty : m.isEmpty = false) {count padding : Nat}
    (hgap : (Indent.take? m.rest m.stop 0 m.gap).getD (0, 0) = (count, padding)) :
    Begins source place c c₀ z
      { block := .listItem (m.stop + m.gap), cursor := c.advancePadded (m.stop + count) padding, descend := true } := by
  obtain ⟨k, b, body, hline, hstop, -⟩ := h.exists_marker hm
  obtain ⟨hpos, hwidth⟩ := ListMarker.gap_pos hempty (head?_rest_of_read? h hn hm hempty)
  obtain ⟨⟨count', padding'⟩, htake⟩ := Option.isSome_iff_exists.mp (take?_isSome hwidth)
  rw [htake, Option.getD_some] at hgap
  cases hgap
  obtain ⟨hcount, hpos'⟩ := Indent.take?_spec htake
  replace hpos := hpos' hpos
  have hindent : ∀ a ∈ m.rest.take count, isIndent a = true := by
    intro a ha
    rw [← List.takeWhile_append_dropWhile (p := isIndent) (l := m.rest), List.take_append_of_le_length hcount] at ha
    exact List.mem_takeWhile_imp (List.take_subset _ _ ha)
  have hblank : Bytes.isBlank (m.rest.take count) = true := List.all_eq_true.mpr fun a ha => by
    have ha := hindent a ha
    rw [isIndent, Bool.or_eq_true, beq_iff_eq, beq_iff_eq] at ha
    rcases ha with rfl | rfl <;> rfl
  rw [ListMarker.isEmpty, ← List.take_append_drop count m.rest] at hempty
  have htext : Bytes.isBlank (m.rest.drop count) = false := by
    rw [Bool.eq_false_iff, ne_eq] at hempty ⊢
    exact fun h => hempty (isBlank_append.mpr ⟨hblank, h⟩)
  rw [← List.take_append_drop count m.rest, ← List.append_assoc, ← List.append_assoc] at hline
  obtain ⟨w, hw, hz⟩ := exists_line_of_append hline (by rintro he; rw [he] at htext; cases htext)
  have htaken : (m.rest.take count).length = count :=
    List.length_take_of_le (hcount.trans (List.takeWhile_prefix _).length_le)
  have hlen : (Bytes.spaces k ++ (b :: body) ++ m.rest.take count).length = m.stop + count - c.padding := by
    simp only [List.length_append, Bytes.length_spaces, List.length_cons, htaken]
    omega
  have hle : m.stop + count ≤ c.padding + z.length := by
    have hzlen := congrArg List.length hz
    rw [List.length_append, hlen] at hzlen
    omega
  have hleft := h.advancePadded hle padding
  rw [← hlen, hz, List.drop_left] at hleft
  refine .container rfl rfl rfl hleft (.behind hz ?_) ?_ ?_
  · intro a ha
    rw [List.getLast?_append_of_ne_nil _ (List.ne_nil_of_length_pos (by omega))] at ha
    exact isLead_of_isIndent (hindent a (List.mem_of_getLast? ha))
  · rw [hz, List.length_append, hlen]
    omega
  · intro hw'
    rw [hw, Bool.eq_false_iff] at htext
    exact absurd (isBlank_append.mpr ⟨hw', rfl⟩) htext

lemma sameLine_code : c₀.SameLine (c.advance ((codeSpan c c.span 0).length - 1)) := by
  have hlen := h.length_span
  refine h.sameLine_advance ?_
  rw [codeSpan]
  split
  · rename_i htab
    have hpadding : c.padding ≠ 0 := by simpa [LineCursor.span] using (Bool.and_eq_true_iff.mp htab).1
    have htaken := h.taken_add
    simp only [Span.length, LineCursor.span]
    omega
  · omega

lemma not_isPrefix_of_quiet (hq : Quiet z) {b : UInt8} {front : Bytes} (hfront : b :: front ∈ ["<!", "<?", "[^"].map utf8)
    (hn : Bytes.newline ∉ b :: front) : ¬ (b :: front) <+: c.rest.drop (c.rest.takeWhile isIndent).length := by
  intro hprefix
  obtain ⟨r, hr⟩ := hprefix
  have hhead : (c.rest.drop (c.rest.takeWhile isIndent).length).head? = some b := by rw [← hr]; rfl
  obtain ⟨y, t, rfl, hindent, hrest, -⟩ := h.behind_indent hhead fun hb => hn (by rw [← hb]; exact List.mem_cons_self)
  rw [← List.drop_drop, ← hr, List.cons_append, List.drop_succ_cons, List.drop_zero] at hrest
  refine hq.fronts y (b :: t) rfl (joint_of_forall fun a ha => isLead_of_isIndent (hindent a ha)) _ hfront ?_
  rw [List.cons_prefix_cons]
  refine ⟨rfl, (List.prefix_concat_iff.mp ⟨r, hrest⟩).resolve_left ?_⟩
  rintro rfl
  exact hn (List.mem_cons_of_mem _ (by simp))

lemma isLeaf_of_kind? (hq : Quiet z) {after : Bool} {type : Nat} (htype : HtmlBlock.kind? c.rest after = some type) :
    (OpenBlock.html type none).IsLeaf := by
  refine HtmlBlock.type_of_kind? htype fun front hfront hprefix => ?_
  obtain ⟨u, hu⟩ := hprefix
  have hspaces : ∀ b ∈ c.rest.takeWhile (· == byte ' '), isIndent b = true := by
    intro b hb
    rw [isIndent, List.mem_takeWhile_imp hb, Bool.true_or]
  have hsplit : c.rest = c.rest.takeWhile (· == byte ' ') ++ c.rest.dropWhile (· == byte ' ') :=
    List.takeWhile_append_dropWhile.symm
  simp only [List.map_cons, List.map_nil, List.mem_cons, List.not_mem_nil, or_false] at hfront
  obtain ⟨m, rfl, hm⟩ : ∃ m, front = [byte '<', m] ∧ (m = byte '!' ∨ m = byte '?') := by
    rcases hfront with rfl | rfl
    · exact ⟨_, rfl, .inl rfl⟩
    · exact ⟨_, rfl, .inr rfl⟩
  have hfront' : ([byte '<', m] : Bytes) ∈ ["<!", "<?", "[^"].map utf8 ∧ Bytes.newline ∉ [byte '<', m] := by
    rcases hm with rfl | rfl <;> decide
  refine not_isPrefix_of_quiet h hq hfront'.1 hfront'.2 ⟨u, ?_⟩
  rw [← hu] at hsplit
  generalize c.rest.takeWhile (· == byte ' ') = x at hspaces hsplit
  rw [hsplit, List.takeWhile_append_of_pos hspaces, List.cons_append, List.takeWhile_cons_of_neg (by decide),
    List.append_nil, List.drop_left]

lemma footnote_eq_none (hq : Quiet z) : footnote source c = none := by
  simp only [footnote, blockOffset?, Indent.measure_snd]
  split
  · rfl
  · rename_i hoffset
    split at hoffset
    · cases hoffset
    · obtain rfl := Option.some.inj hoffset
      rw [if_pos]
      rw [Bool.not_eq_true', Bool.eq_false_iff, ne_eq, List.isPrefixOf_iff_prefix]
      have hfront : byte '[' :: [byte '^'] ∈ ["<!", "<?", "[^"].map utf8 := by decide
      exact not_isPrefix_of_quiet h hq hfront (by decide)

lemma Opens.begins (hq : Quiet z) {r : BlockRule} (hr : r ∈ Plain.grammar.block) (ho : Opens source place c r o) :
    Begins source place c c₀ z o := by
  cases ho with
  | setextHeading | atxHeading | fencedCode => exact .leaf trivial rfl h.sameLine
  | thematicBreak | paragraph => exact .leaf trivial rfl h.sameLine_toLastByte
  | list _ hlast => exact .list rfl rfl rfl rfl hlast
  | emptyItem hm hempty => exact .emptyItem rfl rfl rfl rfl (endsInMarker_of_read? h hm hempty)
  | listItem hm hempty htake => exact listItem_begins h hq.newline hm hempty htake
  | codeBlock htake _ hd =>
    obtain ⟨hle, -⟩ := h.indent (Indent.take?_spec htake).1
    subst hd
    exact .leaf trivial rfl (sameLine_code (h.advancePadded hle _))
  | blockquote hd =>
    obtain ⟨z', htaken, hlen⟩ := quoteMarker?_taken h hd
    exact .container rfl rfl rfl htaken.left htaken.onward hlen fun _ => rfl
  | html htype => exact .leaf (isLeaf_of_kind? h hq htype) rfl h.sameLine_toLastByte
  | footnote _ ho =>
    rw [footnote_eq_none h hq] at ho
    cases ho
  | shortcode | frontMatter => simp [Plain.grammar_block] at hr

lemma isSome_paragraph : (paragraph source c).isSome = !Bytes.isBlank z := by
  have hlen := h.length_span
  have htaken := h.taken_add
  have hall : ((z ++ [Bytes.newline]).takeWhile Bytes.isSpace).length = z.length + 1 ↔ Bytes.isBlank z = true := by
    rw [← List.length_singleton, ← List.length_append]
    refine ⟨fun he => ?_, fun hz => ?_⟩
    · have hself := (List.takeWhile_prefix Bytes.isSpace).eq_of_length he
      exact (isBlank_append.mp (List.all_eq_true.mpr (List.takeWhile_eq_self_iff.mp hself))).1
    · rw [List.takeWhile_eq_self_iff.mpr]
      exact List.all_eq_true.mp (isBlank_append.mpr ⟨hz, rfl⟩)
  have hle := (List.takeWhile_prefix (l := z ++ [Bytes.newline]) Bytes.isSpace).length_le
  have hempty : (c.span.trimLeft source).isEmpty = Bytes.isBlank z := by
    rw [Bool.eq_iff_iff, Span.trimLeft, h.slice_span, ← hall]
    rw [List.length_append, List.length_singleton] at hle
    simp only [Span.isEmpty, LineCursor.span, Bool.and_eq_true, beq_self_eq_true, and_true]
    refine ⟨fun hstop => ?_, fun hstop => decide_eq_true (by omega)⟩
    replace hstop := of_decide_eq_true hstop
    omega
  simp only [paragraph, hempty]
  cases Bytes.isBlank z <;> rfl

lemma isSome_codeBlock (hz : Bytes.isBlank z = false) (hwidth : 4 ≤ (Indent.measure c.rest c.column).1) :
    (codeBlock c).isSome = true := by
  obtain ⟨⟨count, padding⟩, htake⟩ := Option.isSome_iff_exists.mp (take?_isSome hwidth)
  simp only [codeBlock, htake, h.isBlank_rest, hz, Bool.false_eq_true, if_false, Option.isSome_some]

end

section

variable {source : Bytes} {place : Place} {c : LineCursor} {rs : List BlockRule} {r : BlockRule}

lemma isSome_firstOf_of_mem (hr : r ∈ rs) (h : ∀ ctx, (try_ source place ctx c r).2.isSome = true) (ctx : BlockContext) :
    (firstOf source place c ctx rs).2.isSome = true := by
  induction rs generalizing ctx with
  | nil => cases hr
  | cons r' rs ih =>
    rw [firstOf]
    rcases htry : try_ source place ctx c r' with ⟨ctx', _ | o⟩
    · refine ih ((List.mem_cons.mp hr).resolve_left ?_) ctx'
      rintro rfl
      have hsome := h ctx
      rw [htry] at hsome
      cases hsome
    · rfl

lemma firstOf_eq_none (h : ∀ r ∈ rs, ∀ ctx, (try_ source place ctx c r).2 = none) (ctx : BlockContext) :
    (firstOf source place c ctx rs).2 = none := by
  induction rs generalizing ctx with
  | nil => rfl
  | cons r rs ih =>
    rw [List.forall_mem_cons] at h
    have htry := h.1 ctx
    rw [firstOf]
    generalize try_ source place ctx c r = tried at htry
    obtain ⟨ctx', o⟩ := tried
    obtain rfl : o = none := htry
    exact ih h.2 ctx'

end

end Opening

namespace OpeningState

variable {source z : Bytes} {c₀ : LineCursor} {s : OpeningState} (h : s.cursor.Left source c₀ z)

include h

lemma isSome_firstOf (hz : Bytes.isBlank z = false) (hs : (s.continuable && s.opened.isEmpty) = false)
    (place : Place) (ctx : BlockContext) :
    (Opening.firstOf source place s.cursor ctx (s.rules Plain.grammar s.cursor.rest)).2.isSome = true := by
  have hmem : ∀ r ∈ [BlockRule.codeBlock, .paragraph],
      ((Indent.measure s.cursor.rest s.cursor.column).1 ≤ 3 ∨ r.acceptsIndent = true) →
        r ∈ s.rules Plain.grammar s.cursor.rest := by
    intro r hr hwidth
    rw [Plain.rules_eq, List.mem_filter, hs]
    exact ⟨List.mem_append_right _ hr, by simpa using hwidth⟩
  by_cases hwidth : (Indent.measure s.cursor.rest s.cursor.column).1 ≤ 3
  · refine Opening.isSome_firstOf_of_mem (hmem .paragraph (by simp) (.inl hwidth)) (fun ctx => ?_) ctx
    rw [Opening.try_, Opening.isSome_paragraph h, hz]
    rfl
  · refine Opening.isSome_firstOf_of_mem (hmem .codeBlock (by simp) (.inr rfl)) (fun ctx => ?_) ctx
    rw [Opening.try_]
    exact Opening.isSome_codeBlock h hz (by omega)

lemma firstOf_of_isBlank (hz : Bytes.isBlank z = true) (place : Place) (ctx : BlockContext) :
    (Opening.firstOf source place s.cursor ctx (s.rules Plain.grammar s.cursor.rest)).2 = none := by
  have hspace : ∀ b ∈ (s.cursor.rest.drop (Indent.measure s.cursor.rest s.cursor.column).2).head?, Bytes.isSpace b = true := by
    intro b hb
    rw [← h.isBlank_rest] at hz
    exact List.all_eq_true.mp hz b (List.drop_subset _ _ (List.mem_of_mem_head? hb))
  have htriggers : ∀ r ∈ Plain.grammar.block, ∀ t, r.triggers? = some t → ∀ b ∈ t, Bytes.isSpace b = false := by
    decide +kernel
  refine Opening.firstOf_eq_none (fun r hr ctx => ?_) ctx
  rw [Plain.rules_eq] at hr
  rcases List.mem_append.mp (List.mem_filter.mp hr).1 with hr | hr
  · obtain ⟨hblock, b, hb, t, ht, hmem⟩ := Plain.triggers?_isSome_of_mem hr
    have hb := hspace b hb
    rw [htriggers r hblock t ht b hmem] at hb
    cases hb
  · simp only [List.mem_cons, List.not_mem_nil, or_false] at hr
    rcases hr with rfl | rfl
    · rw [Opening.try_, Opening.codeBlock, h.isBlank_rest, hz]
      dsimp only
      split <;> rfl
    · rw [Opening.try_, ← Option.not_isSome_iff_eq_none, Opening.isSome_paragraph h, hz]
      decide

end OpeningState

/-! ### What a line opens -/

inductive Nested : List Frame → Prop
  | nil : Nested []
  | leaf {f : Frame} (hf : f.block.IsLeaf) : Nested [f]
  | inside {f : Frame} {fs : List Frame} (hf : f.block.isContainer = true) (h : Nested fs) : Nested (f :: fs)

def OpenBlock.Ends (z : Bytes) (b : OpenBlock) : Prop :=
  b.IsLeaf ∨ b = .blockquote ∨ b.isContainer = true ∧ EndsInMarker z

namespace OpeningState

/-- On what is left of a line, the blocks `new` are opened from one state to another. If there are none, the state is as
it was, and nothing is left of the line or it may go on with a paragraph. -/
structure Opens (c₀ : LineCursor) (z : Bytes) (s r : OpeningState) (new : List Frame) : Prop where
  context : Steady s.context r.context
  sameLine : c₀.SameLine r.cursor
  opened : r.opened = s.opened ++ new
  nested : Nested new
  ends : ∀ f ∈ new.getLast?, f.block.Ends z
  nothing : new = [] → r = { s with context := r.context } ∧
    (Bytes.isBlank z = true ∨ s.continuable = true ∧ s.opened = [])
  blank : Bytes.isBlank z = true → new = []

variable {source z z' : Bytes} {c₀ : LineCursor} {s s' r : OpeningState} {blank : Bool}

lemma opens_nothing (h : s.cursor.Left source c₀ z) (ctx : BlockContext) (hctx : Steady s.context ctx)
    (hz : Bytes.isBlank z = true ∨ s.continuable = true ∧ s.opened = []) :
    Opens c₀ z s { s with context := ctx } [] :=
  ⟨hctx, h.sameLine, by simp, .nil, by simp, fun _ => ⟨rfl, hz⟩, fun _ => rfl⟩

lemma Opens.container {f : Frame} {new : List Frame} (h : Opens c₀ z' s' r new) (hctx : Steady s.context s'.context)
    (hopened : s'.opened = s.opened ++ [f]) (hf : f.block.isContainer = true) (hz : Bytes.isBlank z = false)
    (hon : Onward z z') (hend : Bytes.isBlank z' = true → f.block = .blockquote) : Opens c₀ z s r (f :: new) := by
  refine ⟨hctx.trans h.context, h.sameLine, by rw [h.opened, hopened, List.append_assoc]; rfl, .inside hf h.nested, ?_,
    nofun, fun h => absurd h (by simp [hz])⟩
  cases new with
  | nil =>
    rintro _ ⟨⟩
    obtain ⟨-, hz' | ⟨-, hnil⟩⟩ := h.nothing rfl
    · exact .inr (.inl (hend hz'))
    · rw [hopened] at hnil
      exact absurd hnil (by simp)
  | cons g new =>
    intro k hk
    rw [List.getLast?_cons_cons] at hk
    exact (h.ends k hk).imp_right (.imp_right fun he => ⟨he.1, he.2.onward hon⟩)

lemma isBlank_of_head? (h : s.cursor.Left source c₀ z) (hn : Bytes.newline ∉ z)
    (hhead : s.cursor.rest.head? = some Bytes.newline) : Bytes.isBlank z = true := by
  rw [h.rest_eq] at hhead
  revert hhead
  cases s.cursor.padding with
  | succ p =>
    rw [Bytes.spaces_succ]
    exact fun hhead => absurd (Option.some.inj hhead) (by decide)
  | zero =>
    cases z with
    | nil => exact fun _ => rfl
    | cons b z => exact fun hhead => absurd List.mem_cons_self ((Option.some.inj hhead : b = _) ▸ hn)

def room (z : Bytes) (s : OpeningState) : Nat :=
  2 * z.length + (if s.place.lastIsList then 0 else 1) + (if s.last.isSome then 1 else 0)

lemma room_le (z : Bytes) (s : OpeningState) : s.room z ≤ 2 * z.length + 2 := by
  rw [room]
  split <;> split <;> omega

inductive Moves (source : Bytes) (c₀ : LineCursor) (z : Bytes) (s : OpeningState) : Bool × OpeningState → Prop
  | done {s' : OpeningState} {new : List Frame} (h : Opens c₀ z s s' new) : Moves source c₀ z s (false, s')
  | more {s' : OpeningState} {z' : Bytes} (h : s'.cursor.Left source c₀ z') (hz : Onward z z')
      (hroom : s'.room z' < s.room z) (hopens : ∀ {r new}, Opens c₀ z' s' r new → ∃ new', Opens c₀ z s r new') :
      Moves source c₀ z s (true, s')

lemma isBlank_of_firstOf (h : s.cursor.Left source c₀ z) {ctx : BlockContext} {o : Opened}
    (hf : Opening.firstOf source s.place s.cursor s.context (s.rules Plain.grammar s.cursor.rest) = (ctx, some o)) :
    Bytes.isBlank z = false := by
  by_contra hz
  have hnone := firstOf_of_isBlank h (by simpa using hz) s.place s.context
  rw [hf] at hnone
  cases hnone

lemma moves_push (h : s.cursor.Left source c₀ z) {ctx : BlockContext} (hsteady : Steady s.context ctx) {o : Opened}
    (hbegins : Opening.Begins source s.place s.cursor c₀ z o) (hz : Bytes.isBlank z = false) (lines : List Span) :
    Moves source c₀ z s (o.descend, { s with context := ctx }.push o ⟨o.block, blank, lines, []⟩) := by
  cases hbegins with
  | leaf hb hd hc =>
    rw [hd]
    exact .done ⟨hsteady, hc, rfl, .leaf hb, by rintro _ ⟨⟩; exact .inl hb, nofun, fun hz' => absurd hz' (by simp [hz])⟩
  | list hb ht hd hc hp =>
    rw [hd]
    have hleft : ({ s with context := ctx }.push o ⟨o.block, blank, lines, []⟩).cursor.Left source c₀ z := by
      rw [push, hc]
      exact h
    refine .more hleft .refl ?_ fun hnew =>
      ⟨_, hnew.container hsteady rfl (OpenBlock.isContainer_of_isList hb) hz .refl fun hz' => absurd hz' (by simp [hz])⟩
    have hplace : (({ s with context := ctx }.push o ⟨o.block, blank, lines, []⟩).place).lastIsList = true := by
      simp [place, push, hb]
    rw [room, room, hp, hplace, if_pos rfl, if_neg Bool.false_ne_true, push]
    dsimp only
    omega
  | emptyItem hb ht hd hc he =>
    rw [hd]
    refine .done ⟨hsteady, ?_, rfl, .inside hb .nil, ?_, nofun, fun hz' => absurd hz' (by simp [hz])⟩
    · rw [push, hc]
      exact h.sameLine
    · rintro _ ⟨⟩
      exact .inr (.inr ⟨hb, he⟩)
  | @container z' hb ht hd hc hon hlen hblank =>
    rw [hd]
    refine .more hc hon ?_ fun hnew => ⟨_, hnew.container hsteady rfl hb hz hon hblank⟩
    have hlast : ({ s with context := ctx }.push o ⟨o.block, blank, lines, []⟩).last = s.last := rfl
    rw [room, room, hlast]
    split <;> split <;> omega

lemma Steps.moves {r : Bool × OpeningState} (hr : Steps Plain.grammar source blank s r)
    (h : s.cursor.Left source c₀ z) (hq : Quiet z) : Moves source c₀ z s r := by
  have hline : ∀ {line : Bytes}, s.cursor.peek? = some line → line = s.cursor.rest := by
    intro line hl
    rw [h.peek?_eq, ← h.rest_eq] at hl
    exact (Option.some.inj hl).symm
  have hsteady := Steady.of_passes
    (.firstOf s.context source s.place s.cursor (s.rules Plain.grammar s.cursor.rest))
  cases hr with
  | ended hl =>
    have hhead := hl _ h.peek?_eq
    rw [← h.rest_eq] at hhead
    exact .done (opens_nothing h s.context (.refl _) (.inl (isBlank_of_head? h hq.newline hhead)))
  | @silent line ctx hl hf =>
    obtain rfl := hline hl
    rw [hf] at hsteady
    refine .done (opens_nothing h ctx hsteady ?_)
    by_contra hnot
    simp only [not_or, Bool.not_eq_true, not_and] at hnot
    have hsome := isSome_firstOf h hnot.1 (by simpa using hnot.2) s.place s.context
    rw [hf] at hsome
    cases hsome
  | @opens line ctx o hl hf =>
    obtain rfl := hline hl
    rw [hf] at hsteady
    obtain ⟨r, hr, ho⟩ := Opening.opens_of_firstOf hf
    exact moves_push h hsteady (ho.begins h hq (mem_block_of_mem_rules hr)) (isBlank_of_firstOf h hf) o.lines
  | @defines line ctx ctx' o p nodes hl hf htakes hlast hp =>
    -- All of the paragraph was link definitions: other blocks may begin with the underline.
    obtain rfl := hline hl
    rw [hf] at hsteady
    have hsettle := Steady.settleParagraph Plain.grammar source ctx (trimLines source p.lines) p.blankBefore
    rw [hp] at hsettle
    obtain ⟨hopened, hgrade, -⟩ := takes_paragraph hf htakes hlast
    have hz := isBlank_of_firstOf h hf
    refine .more h .refl ?_ fun {r new} hnew => ⟨new, (hsteady.trans hsettle).trans hnew.context,
      hnew.sameLine, hnew.opened, hnew.nested, hnew.ends, fun hnil => ?_, hnew.blank⟩
    · simp [room, place, afterParagraph, hopened, hlast, OpenBlock.eq_paragraph_of_grade hgrade, OpenBlock.isList]
    · obtain ⟨-, hz' | ⟨hcontinuable, -⟩⟩ := hnew.nothing hnil
      · rw [hz] at hz'
        cases hz'
      · cases hcontinuable
  | @underlines line ctx ctx' o p lines nodes hl hf htakes hlast hp =>
    obtain rfl := hline hl
    rw [hf] at hsteady
    have hsettle := Steady.settleParagraph Plain.grammar source ctx (trimLines source p.lines) p.blankBefore
    rw [hp] at hsettle
    obtain ⟨r, hr, ho⟩ := Opening.opens_of_firstOf hf
    have hz := isBlank_of_firstOf h hf
    cases ho.begins h hq (mem_block_of_mem_rules hr) with
    | leaf hb _ hc =>
      exact .done ⟨hsteady.trans hsettle, hc, rfl, .leaf hb, by rintro _ ⟨⟩; exact .inl hb,
        fun hnil => absurd hnil (List.cons_ne_nil _ _), fun hz' => absurd hz' (by simp [hz])⟩
    | list _ ht | emptyItem _ ht | container _ ht =>
      rw [ht] at htakes
      cases htakes

theorem exists_opens_run (h : s.cursor.Left source c₀ z) (hq : Quiet z) {fuel : Nat} (hfuel : s.room z < fuel) :
    ∃ new, Opens c₀ z s (s.run Plain.grammar source blank fuel) new := by
  induction fuel generalizing s z with
  | zero => omega
  | succ fuel ih =>
    have hmoves := (@steps Plain.grammar source blank s).moves h hq
    rw [run_succ]
    generalize s.step Plain.grammar source blank = r at hmoves
    cases hmoves with
    | done hnew => exact ⟨_, hnew⟩
    | more h' hz hroom hopens =>
      obtain ⟨new, hnew⟩ := ih h' (hq.onward hz) (by omega)
      exact hopens hnew

end OpeningState

end MarkdownTidy
