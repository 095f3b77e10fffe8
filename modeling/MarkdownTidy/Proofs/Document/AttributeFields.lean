import Mathlib.Data.List.Basic
import MarkdownTidy.Proofs.Bytes.Search
import MarkdownTidy.Proofs.Writer.CodeSpan
import MarkdownTidy.Writer.Visitor

/-! Attribute lists read and written. The writer groups the fields of a list by their marks; a list that is grouped is
read as the list it came from and is written as it stands. -/

namespace MarkdownTidy

lemma TextCursor.line_advance {c : TextCursor} {w t : Bytes} (hp : c.padding = 0) (hrest : c.rest = w ++ t)
    (hw : w ≠ []) (ht : t ≠ [] ∨ c.later = []) : (c.advance w.length).line = t := by
  by_cases hne : t = []
  · subst hne
    have hlater : c.later = [] := ht.resolve_left (by simp)
    obtain ⟨v, b, rfl⟩ : ∃ v b, w = v ++ [b] := ⟨_, _, (List.dropLast_append_getLast hw).symm⟩
    rw [List.append_nil] at hrest
    rw [List.length_append, advance_add, advance_line hp hrest (List.cons_ne_nil b [])]
    simp [advance, step, hp, hlater, line, peek?, atEnd]
  · have hpeek := peek?_of_rest (c := { c with pos := c.pos + w.length, seen := w.reverse ++ c.seen, rest := t }) hp hne
    rw [advance_line hp hrest hne, line, hpeek]
    rfl

lemma TextCursor.rest_of_line {c : TextCursor} {b : UInt8} {x : Bytes} (hb : b ≠ byte ' ') (h : c.line = b :: x) :
    c.padding = 0 ∧ c.rest = b :: x := by
  rw [line, peek?] at h
  split at h
  · cases h
  · rw [Option.getD_some] at h
    cases hp : c.padding with
    | zero => exact ⟨rfl, by simpa [hp, Bytes.spaces] using h⟩
    | succ n =>
      rw [hp, Bytes.spaces_succ, List.cons_append, List.cons.injEq] at h
      exact absurd h.1.symm hb

/-! ### Fields of a text -/

namespace Text

variable {s f : Bytes}

lemma fieldsFrom_append {ps : List Utf8.CodePoint} (h : ∀ r ∈ ps, isBlank r.code = false) (cur : Bytes)
    (rs : List Utf8.CodePoint) : fieldsFrom cur (ps ++ rs) = fieldsFrom (cur ++ ps.flatMap (·.bytes)) rs := by
  induction ps generalizing cur with
  | nil => rw [List.nil_append, List.flatMap_nil, List.append_nil]
  | cons r ps ih =>
    rw [List.forall_mem_cons] at h
    rw [List.cons_append, fieldsFrom, h.1, if_neg Bool.false_ne_true, ih h.2, List.flatMap_cons, List.append_assoc]

lemma fields_space_cons (s : Bytes) : fields (32 :: s) = fields s := by
  rw [fields, Utf8.codePoints_ascii_cons (by decide)]
  rfl

lemma fields_append_space (hf : Unspaced f) (hne : f ≠ []) (s : Bytes) : fields (f ++ 32 :: s) = f :: fields s := by
  rw [fields, Utf8.codePoints_append_ascii (by decide), fieldsFrom_append hf, List.nil_append,
    Utf8.flatMap_bytes_codePoints, fieldsFrom, if_pos (by decide), if_neg (by simpa using hne)]
  rfl

lemma fields_eq_singleton (hf : Unspaced f) (hne : f ≠ []) : fields f = [f] := by
  rw [fields, ← List.append_nil (Utf8.codePoints f), fieldsFrom_append hf, List.nil_append,
    Utf8.flatMap_bytes_codePoints, fieldsFrom, if_neg (by simpa using hne)]

lemma fields_join {fs : List Bytes} (h : ∀ f ∈ fs, f ≠ [] ∧ Unspaced f) : fields (Bytes.join [32] fs) = fs := by
  induction fs with
  | nil => rfl
  | cons f fs ih =>
    rw [List.forall_mem_cons] at h
    cases fs with
    | nil => rw [show Bytes.join [32] [f] = f by simp [Bytes.join], fields_eq_singleton h.1.2 h.1.1]
    | cons g fs =>
      rw [Bytes.join_cons (List.cons_ne_nil g fs), List.append_assoc, List.singleton_append,
        fields_append_space h.1.2 h.1.1, ih h.2]

lemma mem_fieldsFrom {p m q : List Utf8.CodePoint} (hs : Utf8.codePoints s = p ++ m ++ q)
    (hm : ∀ r ∈ m, isBlank r.code = false) (hf : f ∈ fieldsFrom (m.flatMap (·.bytes)) q) :
    f ≠ [] ∧ Unspaced f ∧ f <:+: s := by
  -- the field in front, whatever ends it
  have hfront : ∀ {p m q}, Utf8.codePoints s = p ++ m ++ q → (∀ r ∈ m, isBlank r.code = false) →
      (m.flatMap (·.bytes)).isEmpty ≠ true → f = m.flatMap (·.bytes) → f ≠ [] ∧ Unspaced f ∧ f <:+: s := by
    rintro p m q hs hm hne rfl
    refine ⟨fun h => hne (by rw [h]; rfl), ?_, p.flatMap (·.bytes), q.flatMap (·.bytes), ?_⟩
    · rw [Unspaced, Utf8.codePoints_isInfix hs]
      exact hm
    · rw [← List.flatMap_append, ← List.flatMap_append, ← hs, Utf8.flatMap_bytes_codePoints]
  -- what is read splits into what is done, the field that is open and what is left
  induction q generalizing p m with
  | nil =>
    rw [fieldsFrom] at hf
    split at hf
    · cases hf
    · rename_i hne
      exact hfront hs hm hne (List.mem_singleton.mp hf)
  | cons r q ih =>
    rw [fieldsFrom] at hf
    split at hf
    · have hs' : Utf8.codePoints s = (p ++ m ++ [r]) ++ [] ++ q := by rw [hs]; simp
      split at hf
      · exact ih hs' (by simp) hf
      · rename_i hne
        rcases List.mem_cons.mp hf with hf | hf
        · exact hfront hs hm hne hf
        · exact ih hs' (by simp) hf
    · rename_i hr
      refine ih (p := p) (m := m ++ [r]) (by rw [hs]; simp) ?_ (by simpa using hf)
      rw [List.forall_mem_append]
      exact ⟨hm, by simpa using hr⟩

lemma mem_fields (hf : f ∈ fields s) : f ≠ [] ∧ Unspaced f ∧ f <:+: s :=
  mem_fieldsFrom (p := []) (m := []) rfl (by simp) hf

end Text

/-! ### Fields of an attribute list -/

namespace Inline

def marked (mark : UInt8) (field : Bytes) : Bool := field.length > 1 && field.head? == some mark

/-- Identifiers first, then classes, then all others. -/
def grouped (fields : List Bytes) : List Bytes :=
  fields.filter (marked (byte '#')) ++ fields.filter (marked (byte '.')) ++
    fields.filter fun f => !marked (byte '#') f && !marked (byte '.') f

variable {fields : List Bytes} {f : Bytes} {m : UInt8}

lemma attributeFields_eq (fields : List Bytes) :
    attributeFields fields = ((fields.filter (marked (byte '#'))).map (·.drop 1),
      (fields.filter (marked (byte '.'))).map (·.drop 1),
      fields.filter fun f => !marked (byte '#') f && !marked (byte '.') f) := rfl

lemma marked_and_marked (f : Bytes) : (marked (byte '#') f && marked (byte '.') f) = false := by
  rw [Bool.and_eq_false_imp]
  intro h
  simp only [marked, Bool.and_eq_true, beq_iff_eq] at h ⊢
  rw [h.2, Bool.and_eq_false_imp]
  exact fun _ => by decide

lemma cons_drop_of_marked (h : marked m f = true) : m :: f.drop 1 = f := by
  simp only [marked, Bool.and_eq_true, beq_iff_eq] at h
  cases f with
  | nil => simp at h
  | cons b f => simpa using h.2.symm

lemma grouped_perm (fields : List Bytes) : (grouped fields).Perm fields := by
  have hclasses : (fields.filter fun f => !marked (byte '#') f).filter (marked (byte '.')) =
      fields.filter (marked (byte '.')) := by
    rw [List.filter_filter]
    refine List.filter_congr fun f _ => ?_
    have h := marked_and_marked f
    cases hid : marked (byte '#') f <;> simp_all
  have hothers : (fields.filter fun f => !marked (byte '#') f).filter (fun f => !marked (byte '.') f) =
      fields.filter fun f => !marked (byte '#') f && !marked (byte '.') f := by
    rw [List.filter_filter]
    exact List.filter_congr fun f _ => Bool.and_comm _ _
  -- the others come behind the classes among what is no identifier
  have hrest := List.filter_append_perm (marked (byte '.')) (fields.filter fun f => !marked (byte '#') f)
  rw [hclasses, hothers] at hrest
  rw [grouped, List.append_assoc]
  exact (hrest.append_left _).trans (List.filter_append_perm (marked (byte '#')) fields)

lemma mem_grouped : f ∈ grouped fields ↔ f ∈ fields := (grouped_perm fields).mem_iff

lemma attributeFields_grouped (fields : List Bytes) : attributeFields (grouped fields) = attributeFields fields := by
  have hswap : ∀ f, (marked (byte '.') f && marked (byte '#') f) = false := fun f =>
    (Bool.and_comm _ _).trans (marked_and_marked f)
  have hids : (grouped fields).filter (marked (byte '#')) = fields.filter (marked (byte '#')) := by
    simp [grouped, List.filter_append, List.filter_filter, marked_and_marked, ← Bool.and_assoc]
  have hclasses : (grouped fields).filter (marked (byte '.')) = fields.filter (marked (byte '.')) := by
    simp [grouped, List.filter_append, List.filter_filter, hswap, Bool.and_left_comm _ (!marked (byte '#') _)]
  have hothers : ((grouped fields).filter fun f => !marked (byte '#') f && !marked (byte '.') f) =
      fields.filter fun f => !marked (byte '#') f && !marked (byte '.') f := by
    simp +contextual [grouped, List.filter_append, List.filter_filter, Bool.and_assoc]
  rw [attributeFields_eq, attributeFields_eq, hids, hclasses, hothers]

lemma attributeListNode_congr {s t : Bytes} (h : attributeFields (Text.fields s) = attributeFields (Text.fields t)) :
    attributeListNode s = attributeListNode t := by
  rw [attributeListNode, attributeListNode, h]

/-! ### Reading -/

lemma attributeList?_eq {c : TextCursor} {inner tail : Bytes}
    (hline : c.line = utf8 "\x7b:" ++ (inner ++ byte '}' :: tail)) (hinner : byte '}' ∉ inner) :
    attributeList? c = some (attributeListNode inner, c.advance (inner.length + 3)) := by
  have hstop : Bytes.indexOf? (byte '}') (utf8 "\x7b:" ++ (inner ++ byte '}' :: tail)) = some (inner.length + 2) := by
    have hmem : byte '}' ∉ utf8 "\x7b:" ++ inner := by
      rw [List.mem_append, not_or]
      exact ⟨by decide, hinner⟩
    rw [← List.append_assoc, Bytes.indexOf?_append hmem, List.length_append]
    exact congrArg some (Nat.add_comm _ _)
  have hslice : Bytes.slice (utf8 "\x7b:" ++ (inner ++ byte '}' :: tail)) 2 (inner.length + 2) = inner := by
    rw [Bytes.slice, Nat.add_sub_cancel]
    exact List.take_left
  rw [attributeList?, hline, if_neg (by simp [List.isPrefixOf_iff_prefix]), hstop, Option.map_some, hslice]

lemma exists_inner {line : Bytes} (hopen : utf8 "\x7b:" <+: line) (hclose : byte '}' ∈ line) :
    ∃ inner tail, line = utf8 "\x7b:" ++ (inner ++ byte '}' :: tail) ∧ byte '}' ∉ inner := by
  obtain ⟨t, rfl⟩ := hopen
  have ht : byte '}' ∈ t := (List.mem_append.mp hclose).resolve_left (by decide)
  obtain ⟨inner, tail, rfl, hinner⟩ := List.eq_append_cons_of_mem ht
  exact ⟨inner, tail, rfl, hinner⟩

end Inline

/-! ### Writing -/

namespace Writer

open Inline

def spacedFields (fields : List Bytes) : Bytes := if fields.isEmpty then [] else 32 :: Bytes.join [32] fields

lemma fields_spacedFields {fs : List Bytes} (h : ∀ f ∈ fs, f ≠ [] ∧ Text.Unspaced f) :
    Text.fields (spacedFields fs) = fs := by
  rw [spacedFields]
  split
  · rename_i hempty
    rw [List.isEmpty_iff.mp hempty]
    rfl
  · rw [Text.fields_space_cons, Text.fields_join h]

lemma mem_spacedFields {fs : List Bytes} {b : UInt8} (h : b ∈ spacedFields fs) : b = 32 ∨ ∃ f ∈ fs, b ∈ f := by
  rw [spacedFields] at h
  split at h
  · cases h
  · rcases List.mem_cons.mp h with h | h
    · exact .inl h
    · exact (Bytes.mem_join h).imp_left List.mem_singleton.mp

def listText (fields : List Bytes) : Bytes := utf8 "\x7b:" ++ (spacedFields (grouped fields) ++ [byte '}'])

lemma visit_attributeListNode (text : Bytes) (tight : Bool) (written : List Written) :
    visit .attributeList tight (attributeListNode text) written = .ok (listText (Text.fields text)) := by
  have hmap : ∀ m, ((Text.fields text).filter (marked m)).map ((m :: ·) ∘ (·.drop 1)) =
      (Text.fields text).filter (marked m) := fun m =>
    (List.map_congr_left fun f hf => cons_drop_of_marked (List.mem_filter.mp hf).2).trans (List.map_id _)
  have hwritten : attributeList (attributeFields (Text.fields text)).1 (attributeFields (Text.fields text)).2.1
      (attributeFields (Text.fields text)).2.2 = listText (Text.fields text) := by
    rw [attributeFields_eq, attributeList, List.map_map, List.map_map, hmap, hmap, ← grouped, listText, spacedFields]
    split <;> rfl
  exact congrArg Except.ok hwritten

/-- An attribute list is written in one form, whatever follows it: the text that is written has the fields of the list,
grouped, is read up to its end as the same node, and so is written again as it stands. -/
theorem attributeList?_listText {c : TextCursor} (hopen : utf8 "\x7b:" <+: c.line) (hclose : byte '}' ∈ c.line) :
    ∃ inner tail n w, c.line = utf8 "\x7b:" ++ (inner ++ byte '}' :: tail) ∧ byte '}' ∉ inner ∧
      attributeList? c = some (n, c.advance (inner.length + 3)) ∧
      (∀ tight written, visit .attributeList tight n written = .ok w) ∧
      (∃ text, w = utf8 "\x7b:" ++ (text ++ [byte '}']) ∧ Bytes.newline ∉ w ∧
        Text.fields text = grouped (Text.fields inner) ∧ (Text.fields text).Perm (Text.fields inner)) ∧
      ∀ (d : TextCursor) (rest : Bytes), d.line = w ++ rest →
        attributeList? d = some (n, d.advance w.length) ∧
          (rest ≠ [] ∨ d.later = [] → (d.advance w.length).line = rest) := by
  obtain ⟨inner, tail, hline, hinner⟩ := exists_inner hopen hclose
  have hfields : ∀ f ∈ grouped (Text.fields inner), f ≠ [] ∧ Text.Unspaced f ∧ f <:+: inner := fun f hf =>
    Text.mem_fields (mem_grouped.mp hf)
  have hspaced := fields_spacedFields fun f hf => ⟨(hfields f hf).1, (hfields f hf).2.1⟩
  have hnewline : Bytes.newline ∉ spacedFields (grouped (Text.fields inner)) := by
    intro h
    rcases mem_spacedFields h with h | ⟨f, hf, hb⟩
    · exact absurd h (by decide)
    · exact absurd ((hfields f hf).2.1.isBlank_eq_false hb (by decide)) (by decide)
  have hclosing : byte '}' ∉ spacedFields (grouped (Text.fields inner)) := by
    intro h
    rcases mem_spacedFields h with h | ⟨f, hf, hb⟩
    · exact absurd h (by decide)
    · exact hinner ((hfields f hf).2.2.subset hb)
  refine ⟨inner, tail, attributeListNode inner, listText (Text.fields inner), hline, hinner,
    attributeList?_eq hline hinner, visit_attributeListNode inner,
    ⟨spacedFields (grouped (Text.fields inner)), rfl, ?_, hspaced, by rw [hspaced]; exact grouped_perm _⟩, ?_⟩
  · rw [listText, List.mem_append, List.mem_append, not_or, not_or]
    exact ⟨by decide, hnewline, by decide⟩
  · intro d rest hd
    have hd' : d.line = utf8 "\x7b:" ++ (spacedFields (grouped (Text.fields inner)) ++ byte '}' :: rest) := by
      rw [hd, listText]
      simp
    have hread := attributeList?_eq hd' hclosing
    obtain ⟨hpadding, hrest⟩ := TextCursor.rest_of_line (by decide) hd'
    have hlength : (spacedFields (grouped (Text.fields inner))).length + 3 = (listText (Text.fields inner)).length := by
      rw [listText, List.length_append, List.length_append, Nat.add_comm _ 3]
      exact (Nat.add_assoc 2 1 _).trans (congrArg (2 + ·) (Nat.add_comm 1 _))
    have hnode := attributeListNode_congr (s := spacedFields (grouped (Text.fields inner))) (t := inner)
      (by rw [hspaced, attributeFields_grouped])
    rw [hnode, hlength] at hread
    refine ⟨hread, TextCursor.line_advance hpadding ?_ (List.cons_ne_nil _ _)⟩
    rw [hrest, ← hd, hd']
    rfl

/-- A list with a class, an unmarked field and an identifier, in this order. -/
theorem attributeList?_listText_regrouped :
    let c : TextCursor := ⟨0, 0, 0, [], utf8 "\x7b: .b k=v #a\x7d!", []⟩
    ∃ n w, w = utf8 "\x7b: #a .b k=v\x7d" ∧ attributeList? c = some (n, c.advance 13) ∧
      (∀ tight written, visit .attributeList tight n written = .ok w) ∧
      ∀ (d : TextCursor) (rest : Bytes), d.line = w ++ rest → attributeList? d = some (n, d.advance w.length) := by
  intro c
  obtain ⟨inner, tail, n, w, -, -, hread, hwritten, -, hagain⟩ :=
    attributeList?_listText (c := c) (by decide) (by decide)
  have hline : c.line = utf8 "\x7b:" ++ (utf8 " .b k=v #a" ++ byte '}' :: utf8 "!") := rfl
  have hnode : attributeList? c = some (attributeListNode (utf8 " .b k=v #a"), c.advance 13) :=
    attributeList?_eq hline (by decide)
  have htext : visit .attributeList false (attributeListNode (utf8 " .b k=v #a")) [] =
      .ok (utf8 "\x7b: #a .b k=v\x7d") := by
    rw [visit_attributeListNode, show listText (Text.fields (utf8 " .b k=v #a")) = utf8 "\x7b: #a .b k=v\x7d" by decide]
  obtain ⟨hn, -⟩ := Prod.mk.inj (Option.some.inj (hread.symm.trans hnode))
  have hw := hwritten false []
  rw [hn, htext, Except.ok.injEq] at hw
  rw [← hn] at hnode
  exact ⟨n, w, hw.symm, hnode, hwritten, fun d rest hd => (hagain d rest hd).1⟩

end Writer

end MarkdownTidy
