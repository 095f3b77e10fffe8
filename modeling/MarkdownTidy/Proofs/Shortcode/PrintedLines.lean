import MarkdownTidy.Proofs.Bytes.Cutting
import MarkdownTidy.Proofs.Shortcode.RoundTrip

/-! The printed form of a shortcode that was recognized, as lines. -/

namespace MarkdownTidy.Shortcode

open Html

variable {sc : Shortcode}

lemma newline_notMem_escapeValue {s : Bytes} (hs : 10 ∉ s) : 10 ∉ escapeValue s := by
  induction s using escape_induction with
  | nil => exact hs
  | amp s ih => simp_all [escapeValue_amp]
  | quote s ih => simp_all [escapeValue_quote]
  | noBreak s ih => simp_all [escapeValue_noBreak]
  | plain b s h ih => simp_all [escapeValue_cons h]

lemma newline_notMem_of_isKey {name : Bytes} (hk : IsKey name) : Bytes.newline ∉ name := by
  obtain ⟨b, rest, rfl, hspace, -, -, hrest⟩ := hk
  rw [List.mem_cons]
  rintro (rfl | hmem)
  · cases hspace
  · cases hrest _ hmem

lemma newline_notMem_printAttributes {attrs : Attributes}
    (h : ∀ a ∈ attrs, Bytes.newline ∉ a.name ∧ Bytes.newline ∉ a.value) : Bytes.newline ∉ printAttributes attrs := by
  induction attrs with
  | nil => decide
  | cons a attrs ih =>
    rw [List.forall_mem_cons] at h
    have hmarks : Bytes.newline ∉ [61, 34, 34] := by decide
    have hvalue : Bytes.newline ∉ escapeValue a.value := newline_notMem_escapeValue h.1.2
    have hone : Bytes.newline ∉ printAttribute a := by
      simp only [printAttribute_eq, quotedPair, List.mem_append, List.mem_cons, List.not_mem_nil, or_false] at hmarks ⊢
      tauto
    cases attrs with
    | nil => rwa [printAttributes_singleton]
    | cons b attrs =>
      rw [printAttributes_cons_cons, List.mem_append, List.mem_cons, not_or, not_or]
      exact ⟨hone, by decide, ih h.2⟩

/-- A shortcode as the tokenizer makes them. -/
structure Recognized (sc : Shortcode) : Prop where
  named : sc.identifier ≠ []
  unspaced : Text.Unspaced sc.identifier
  unclosed : ¬ writtenClosing <:+: sc.identifier
  keys : ∀ a ∈ sc.attributes, IsKey a.name
  distinct : (sc.attributes.map fun a => Text.lower a.name).Nodup

lemma recognized_of_tokenize? {tidy : Bytes → Bytes} {m : MarkdownAttributes} {value : Bytes} {n : Nat}
    (h : ((Reader.ofWritten tidy).tokenize? m value).1 = some (n, sc)) : sc.Recognized := by
  obtain ⟨k, hfind, -, hparse⟩ := tokenize?_spec h
  obtain ⟨hid, hsp, hinfix, -⟩ := parse?_spec hparse
  obtain ⟨hk, hd⟩ := attributes_of_parse? hparse
  refine ⟨hid, hsp, fun hc => ?_, hk, hd⟩
  exact Bytes.not_infix_take_of_find? (show writtenClosing ≠ [] by decide) hfind (hc.trans hinfix)

structure Rereadable (sc : Shortcode) : Prop where
  values : ∀ a ∈ sc.attributes, byte '\r' ∉ a.value ∧ ¬ writtenClosing <:+: a.value
  first : ∀ a, sc.attributes.head? = some a → Text.startsBlank a.name = false

namespace Recognized

variable (h : sc.Recognized)
include h

lemma tokenize?_print (hr : sc.Rereadable) (tidy : Bytes → Bytes) :
    ((Reader.ofWritten tidy).tokenize? ⟨false, []⟩ sc.print).1 = some (sc.print.length, sc) := by
  have hbody : ¬ writtenClosing <:+: sc.body := by
    rw [infix_body h.keys hr.first h.unclosed]
    rintro ⟨a, ha, hc⟩
    exact (hr.values a ha).2 hc
  have hread := tokenize?_print_of_isKey (m := ⟨false, []⟩) tidy h.named h.unspaced h.keys hr.first h.distinct rfl
    (by simp) hbody []
  rw [List.append_nil, withLineFeeds_eq_self_iff.mpr fun a ha => (hr.values a ha).1] at hread
  rw [hread]

lemma trimSpace_print : Text.trimSpace sc.print = sc.print := by
  have hform : sc.print = 123 :: (123 :: 60 :: 32 :: (sc.body ++ [32, 62, 125])) ++ [125] := by
    rw [print_eq h.named h.unspaced, show writtenOpening = [123, 123, 60] from rfl,
      show writtenClosing = [62, 125, 125] from rfl]
    simp
  have hstart := Text.trimStart_append (show (123 : UInt8) < 0x80 by decide) (by decide) []
    (123 :: 60 :: 32 :: (sc.body ++ [32, 62, 125]))
  rw [List.nil_append] at hstart
  rw [hform, Text.trimSpace_append (by decide) (by decide), hstart]
  rfl

lemma getLast?_print : sc.print.getLast? = some 125 := by
  rw [print_eq h.named h.unspaced, show writtenClosing = [62, 125] ++ [125] from rfl]
  simp [List.getLast?_append, List.getLast?_cons]

lemma print_ne_nil : sc.print ≠ [] := fun hnil => by
  have hlast := h.getLast?_print
  rw [hnil] at hlast
  cases hlast

lemma newline_notMem_identifier : Bytes.newline ∉ sc.identifier := fun hmem =>
  absurd (h.unspaced.isBlank_eq_false hmem (by decide)) (by decide)

lemma newline_notMem_print (hv : ∀ a ∈ sc.attributes, Bytes.newline ∉ a.value)
    (hf : ∀ a, sc.attributes.head? = some a → Text.startsBlank a.name = false) : Bytes.newline ∉ sc.print := by
  have hmarks : Bytes.newline ∉ writtenOpening ++ 32 :: writtenClosing := by decide
  have hid := h.newline_notMem_identifier
  have hattrs := newline_notMem_printAttributes fun a ha => ⟨newline_notMem_of_isKey (h.keys a ha), hv a ha⟩
  rw [print_eq h.named h.unspaced, body, trimSpace_printAttributes hf]
  split <;> simp_all only [List.mem_append, List.mem_cons, or_self, not_false_eq_true, not_or]

lemma split_print (hv : ∀ a ∈ sc.attributes, Bytes.newline ∉ a.value)
    (hf : ∀ a, sc.attributes.head? = some a → Text.startsBlank a.name = false) :
    Bytes.split Bytes.newline sc.print = [sc.print] := by
  have hsplit := Bytes.split_append_of_notMem (h.newline_notMem_print hv hf) []
  rw [List.append_nil] at hsplit
  simpa [Bytes.split, Bytes.firstLine] using hsplit

end Recognized

/-- The lines a shortcode is printed on. -/
structure Lines (sc : Shortcode) (l : Bytes) (ls : List Bytes) : Prop where
  split_eq : Bytes.split Bytes.newline sc.print = l :: ls
  join_eq : Bytes.join [Bytes.newline] (l :: ls) = sc.print
  unbroken : ∀ m ∈ l :: ls, Bytes.newline ∉ m
  opening : ∃ x, x ≠ [] ∧ l = writtenOpening ++ 32 :: x
  closing : ∀ m ∈ (l :: ls).getLast?, ∀ b ∈ m.getLast?, b = 125

lemma Recognized.exists_lines (h : sc.Recognized) : ∃ l ls, sc.Lines l ls := by
  obtain ⟨ls, t, hsplit, hprint, hunbroken⟩ := Bytes.exists_split sc.print
  obtain ⟨b, rest, hid⟩ := List.exists_cons_of_ne_nil h.named
  have hfirst : Bytes.newline ∉ writtenOpening ++ 32 :: sc.identifier := by
    have hopening : Bytes.newline ∉ writtenOpening ++ [32] := by decide
    simp only [List.mem_append, List.mem_cons, List.not_mem_nil, or_false, not_or] at hopening ⊢
    exact ⟨hopening.1, hopening.2, h.newline_notMem_identifier⟩
  have hline : sc.print = (writtenOpening ++ 32 :: sc.identifier) ++
      ((if sc.attributes = [] then [] else 32 :: Text.trimSpace (printAttributes sc.attributes)) ++ 32 :: writtenClosing) := by
    rw [print_eq h.named h.unspaced, body]
    split <;> simp
  have hlast := h.getLast?_print
  have hcut := Bytes.split_append_of_notMem hfirst
    ((if sc.attributes = [] then [] else 32 :: Text.trimSpace (printAttributes sc.attributes)) ++ 32 :: writtenClosing)
  rw [← hline] at hcut
  refine ⟨_, _, hcut, ?_, ?_, ⟨_, ?_, (List.append_assoc _ _ _).trans rfl⟩, ?_⟩
  · have hjoin := @Bytes.unlines_eq_join (ls ++ [t]) (by simp)
    rw [Bytes.unlines_append, Bytes.unlines_cons, Bytes.unlines_nil, ← List.append_assoc, ← hprint] at hjoin
    rw [← hcut, hsplit, List.append_cancel_right hjoin]
  · rwa [← hcut, hsplit]
  · simp [hid]
  · rw [← hcut, hsplit, List.getLast?_concat]
    rintro _ ⟨⟩ b hb
    have ht : t ≠ [] := List.ne_nil_of_mem (List.mem_of_getLast? hb)
    rw [hprint, List.getLast?_append_of_ne_nil _ ht, hb] at hlast
    exact Option.some.inj hlast

end MarkdownTidy.Shortcode
