import Mathlib.Data.List.Basic
import MarkdownTidy.Document.Inline.Leaf
import MarkdownTidy.Proofs.Bytes.Cutting
import MarkdownTidy.Proofs.Text.Trimming
import MarkdownTidy.Writer.Code

/-! Code spans read back. The writer puts more backticks around the content than any run inside has, so the reader
closes the span where it was closed. What is left is the space that the reader takes off both ends: the writer adds one
where the reader would take one, except that the two do not agree on what is blank. -/

namespace MarkdownTidy

variable {x t : Bytes} {n : Nat}

/-! ### Reading -/

namespace TextCursor

lemma advance_add (c : TextCursor) (m k : Nat) : c.advance (m + k) = (c.advance m).advance k := by
  induction m generalizing c with
  | zero => rw [Nat.zero_add]; rfl
  | succ m ih => rw [Nat.succ_add]; exact ih c.step

lemma advance_line {c : TextCursor} {w r : Bytes} (hp : c.padding = 0) (hrest : c.rest = w ++ r) (hr : r ≠ []) :
    c.advance w.length = { c with pos := c.pos + w.length, seen := w.reverse ++ c.seen, rest := r } := by
  induction w generalizing c with
  | nil =>
    obtain ⟨⟩ := c
    simpa [advance] using hrest
  | cons b w ih =>
    obtain ⟨b', r', hnext⟩ := List.exists_cons_of_ne_nil (List.append_ne_nil_of_right_ne_nil w hr)
    have hstep : c.step = { c with pos := c.pos + 1, seen := b :: c.seen, rest := w ++ r } := by
      rw [step, if_neg (by omega), hrest, List.cons_append, hnext]
    rw [List.length_cons, advance, hstep, @ih { c with pos := c.pos + 1, seen := b :: c.seen, rest := w ++ r } hp rfl]
    simp [Nat.add_assoc, Nat.add_comm 1]

lemma peek?_of_rest {c : TextCursor} (hp : c.padding = 0) (hne : c.rest ≠ []) : c.peek? = some c.rest := by
  rw [peek?, if_neg (by simp [atEnd, hne]), hp]
  rfl

end TextCursor

namespace Inline

def runStep (acc : Nat × Nat) (b : UInt8) : Nat × Nat :=
  if b == byte '`' then (max acc.1 (acc.2 + 1), acc.2 + 1) else (acc.1, 0)

lemma le_foldl_runStep (s : Bytes) (acc : Nat × Nat) : acc.1 ≤ (s.foldl runStep acc).1 := by
  induction s generalizing acc with
  | nil => exact le_rfl
  | cons b s ih =>
    refine le_trans ?_ (ih (runStep acc b))
    rw [runStep]
    split
    · exact le_max_left _ _
    · exact le_rfl

lemma closingTicks?_append {i run longest : Nat} (hrun : run ≤ longest) (hx : x = [] → run = 0)
    (hlast : x.getLast? ≠ some (byte '`')) (hn : (x.foldl runStep (longest, run)).1 < n) (y : Bytes) :
    closingTicks? n i run (x ++ y) = closingTicks? n (i + x.length) 0 y := by
  induction x generalizing i run longest with
  | nil => rw [hx rfl]; rfl
  | cons b x ih =>
    have hrest : x.getLast? ≠ some (byte '`') := by
      cases x with
      | nil => simp
      | cons b' x => rwa [List.getLast?_cons_cons] at hlast
    rw [List.cons_append, closingTicks?, List.length_cons, show i + (x.length + 1) = i + 1 + x.length by omega]
    rw [List.foldl_cons, runStep] at hn
    split
    · rename_i hb
      rw [if_pos hb] at hn
      refine ih (le_max_right _ _) (fun hnil => ?_) hrest hn
      simp [hnil, beq_iff_eq.mp hb] at hlast
    · rename_i hb
      rw [if_neg hb] at hn
      have hlt := (le_foldl_runStep x (longest, 0)).trans_lt hn
      rw [if_neg (by simp only [beq_iff_eq]; omega)]
      exact ih (Nat.zero_le _) (fun _ => rfl) hrest hn

lemma closingTicks?_replicate {i run m : Nat} (hm : run + m = n) (ht : t.head? ≠ some (byte '`')) :
    closingTicks? n i run (List.replicate m (byte '`') ++ t) = some (i + m - n, i + m) := by
  induction m generalizing i run with
  | zero =>
    cases t with
    | nil => simp [closingTicks?, ← hm]
    | cons b t =>
      have hb : (b == byte '`') = false := by simpa using ht
      simp [closingTicks?, hb, ← hm]
  | succ m ih =>
    rw [List.replicate_succ, List.cons_append, closingTicks?, if_pos (by simp), ih (by omega)]
    congr 2 <;> omega

def spanContent (x : Bytes) : Bytes :=
  if !Bytes.isBlank x && x.head? == some (byte ' ') && x.getLast? == some (byte ' ') then x.tail.dropLast else x

lemma closingTicks?_content (hn : Bytes.longestRun (byte '`') x < n) (hlast : x.getLast? ≠ some (byte '`'))
    (ht : t.head? ≠ some (byte '`')) :
    closingTicks? n 0 0 (x ++ (List.replicate n (byte '`') ++ t)) = some (x.length, x.length + n) := by
  rw [closingTicks?_append le_rfl (fun _ => rfl) hlast hn, closingTicks?_replicate (Nat.zero_add n) ht]
  congr 2 <;> omega

lemma flatMap_codeText {source : Bytes} {s : Span} (h : Bytes.newline ∉ s.value source) :
    [Node.ofRawText s].flatMap (Writer.codeText source) = s.value source := by
  rw [List.flatMap_singleton]
  refine if_neg ?_
  rw [beq_iff_eq]
  exact fun hlast => h (List.mem_of_getLast? hlast)

section

variable {source : Bytes} {start : Nat}

lemma value_at (h : x <+: source.drop start) : (⟨start, start + x.length, 0⟩ : Span).value source = x := by
  obtain ⟨r, hr⟩ := h
  simp [Span.value, Bytes.slice, ← hr, Bytes.spaces]

lemma value_inside (h : x <+: source.drop start) :
    (⟨start + 1, start + x.length - 1, 0⟩ : Span).value source = x.tail.dropLast := by
  obtain ⟨r, hr⟩ := h
  cases x with
  | nil =>
    rw [Span.value, Bytes.slice, show start + ([] : Bytes).length - 1 - (start + 1) = 0 by rw [List.length_nil]; omega]
    simp [Bytes.spaces]
  | cons b x =>
    have hdrop : source.drop (start + 1) = x ++ r := by rw [← List.drop_drop, ← hr]; rfl
    have hlen : start + (b :: x).length - 1 - (start + 1) = x.length - 1 := by rw [List.length_cons]; omega
    rw [Span.value, Bytes.slice, hdrop, hlen, List.take_append_of_le_length (Nat.sub_le _ _), List.tail_cons,
      List.dropLast_eq_take]
    rfl

lemma head?_drop_last (h : x <+: source.drop start) (hne : x ≠ []) :
    (source.drop (start + x.length - 1)).head? = x.getLast? := by
  obtain ⟨r, hr⟩ := h
  have hpos := List.length_pos_iff.mpr hne
  rw [List.head?_drop, show start + x.length - 1 = start + (x.length - 1) by omega, ← List.getElem?_drop, ← hr,
    List.getElem?_append_left (by omega), List.getLast?_eq_getElem?]

lemma flatMap_stripCode (h : x <+: source.drop start) (hne : x ≠ []) (hline : Bytes.newline ∉ x) :
    ((stripCode source [⟨start, start + x.length, 0⟩]).map .ofRawText).flatMap (Writer.codeText source) =
      spanContent x := by
  have hpos := List.length_pos_iff.mpr hne
  have hfirst : (source.drop start).head? = x.head? := by
    obtain ⟨r, hr⟩ := h
    rw [← hr, List.head?_append_of_ne_nil _ hne]
  have hnewline : (x.head? == some Bytes.newline) = false ∧ (x.getLast? == some Bytes.newline) = false := by
    simp only [beq_eq_false_iff_ne]
    exact ⟨fun hh => hline (List.mem_of_head? hh), fun hl => hline (List.mem_of_getLast? hl)⟩
  have hstrip : stripCode source [⟨start, start + x.length, 0⟩] =
      if !Bytes.isBlank x && x.head? == some (byte ' ') && x.getLast? == some (byte ' ') then
        [⟨start + 1, start + x.length - 1, 0⟩] else [⟨start, start + x.length, 0⟩] := by
    have hfull : decide (start ≥ start + x.length) = false := decide_eq_false (by omega)
    simp only [stripCode, List.all_cons, List.all_nil, Bool.and_true, value_at h, List.head?_cons,
      List.getLast?_singleton, Span.isEmpty, hfirst, head?_drop_last h hne, hnewline.1, hnewline.2, Bool.or_false, hfull,
      Bool.false_and, Bool.not_false]
    generalize (!Bytes.isBlank x && x.head? == some (byte ' ') && x.getLast? == some (byte ' ')) = strips
    cases strips <;> rfl
  rw [hstrip, spanContent]
  split
  · refine (flatMap_codeText ?_).trans (value_inside h)
    rw [value_inside h]
    exact fun hmem => hline (List.mem_of_mem_tail (List.dropLast_subset _ hmem))
  · refine (flatMap_codeText ?_).trans (value_at h)
    rwa [value_at h]

end

lemma codeSpan_ticks {source : Bytes} {c : TextCursor} (hsource : c.rest <+: source.drop c.pos) (hp : c.padding = 0)
    (hrest : c.rest = List.replicate n (byte '`') ++ (x ++ (List.replicate n (byte '`') ++ t)))
    (hn : Bytes.longestRun (byte '`') x < n) (hne : x ≠ []) (hfirst : x.head? ≠ some (byte '`'))
    (hlast : x.getLast? ≠ some (byte '`')) (hline : Bytes.newline ∉ x) (ht : t.head? ≠ some (byte '`')) :
    let r := codeSpan source c
    r.1.kind = .codeSpan ∧ r.1.children.flatMap (Writer.codeText source) = spanContent x ∧
      r.2 = c.advance (n + (x.length + n)) := by
  have hopening : (c.rest.takeWhile (· == byte '`')).length = n := by
    rw [hrest]
    refine Bytes.length_run ?_
    rwa [List.head?_append_of_ne_nil _ hne]
  have hinner := TextCursor.advance_line hp hrest (by simp [hne])
  rw [List.length_replicate] at hinner
  have hx : x <+: source.drop (c.pos + n) := by
    obtain ⟨r, hr⟩ := hsource
    rw [← List.drop_drop, ← hr, hrest, List.append_assoc, Bytes.drop_run, List.append_assoc]
    exact List.prefix_append _ _
  have hline' : c.line = c.rest := by
    rw [TextCursor.line, TextCursor.peek?_of_rest hp (by simp [hrest, hne])]
    rfl
  have hpeek : (c.advance n).peek? = some (x ++ (List.replicate n (byte '`') ++ t)) := by
    rw [hinner]
    exact TextCursor.peek?_of_rest hp (by simp [hne])
  have hspan : (c.advance n).span = ⟨c.pos + n, c.pos + n + (x ++ (List.replicate n (byte '`') ++ t)).length, 0⟩ := by
    rw [hinner, ← hp]
    rfl
  have hread : codeLines? n (c.later.length + 1) (c.advance n) [] =
      some ([⟨c.pos + n, c.pos + n + x.length, 0⟩], (c.advance n).advance (x.length + n)) := by
    have hfull : (⟨c.pos + n, c.pos + n + x.length, 0⟩ : Span).isEmpty = false := by
      have hpos := List.length_pos_iff.mpr hne
      rw [Span.isEmpty, decide_eq_false (by simp only; omega), Bool.false_and]
    simp only [codeLines?, hpeek, closingTicks?_content hn hlast ht, hspan, hfull, Bool.false_eq_true, if_false,
      List.nil_append]
  simp only [codeSpan, hline', hopening, hread, TextCursor.advance_add c n]
  exact ⟨rfl, flatMap_stripCode hx hne hline, trivial⟩

end Inline

/-! ### Writing -/

namespace Writer

variable {content : Bytes}

def paddedContent (content : Bytes) : Bytes :=
  if content.head? == some (byte '`') || content.getLast? == some (byte '`') ||
      (content.head? == some (byte ' ') && content.getLast? == some (byte ' ') && !(Text.trimSpace content).isEmpty) then
    byte ' ' :: content ++ [byte ' ']
  else content

lemma codeSpan_eq (content : Bytes) :
    codeSpan content = List.replicate (Bytes.longestRun (byte '`') content + 1) (byte '`') ++
      (paddedContent content ++ List.replicate (Bytes.longestRun (byte '`') content + 1) (byte '`')) := by
  rw [← List.append_assoc]
  rfl

lemma longestRun_paddedContent (content : Bytes) :
    Bytes.longestRun (byte '`') (paddedContent content) = Bytes.longestRun (byte '`') content := by
  rw [paddedContent]
  split
  · simp [Bytes.longestRun, show byte ' ' ≠ byte '`' by decide]
  · rfl

lemma trimSpace_of_isBlank (h : Bytes.isBlank content = true) : Text.trimSpace content = [] := by
  have hpoints : ∀ r ∈ Utf8.codePoints content, Text.isBlank r.code = true := by
    induction content with
    | nil => simp [Utf8.codePoints, Utf8.codePointsUpTo]
    | cons b content ih =>
      rw [Bytes.isBlank, List.all_cons, Bool.and_eq_true] at h
      obtain ⟨hascii, hb⟩ := Text.isBlank_of_isSpace h.1
      rw [Utf8.codePoints_ascii_cons hascii]
      exact List.forall_mem_cons.mpr ⟨hb, ih h.2⟩
  have htrim := Text.trimPoints_append (p := Utf8.codePoints content) (m := []) (q := []) hpoints (by simp) (by simp) (by simp)
  rw [List.append_nil, List.append_nil] at htrim
  rw [Text.trimSpace_eq, htrim]
  rfl

/-- White space for the writer but not for the reader, with a space at both ends. -/
def Misjudged (content : Bytes) : Prop :=
  content.head? = some (byte ' ') ∧ content.getLast? = some (byte ' ') ∧ Text.trimSpace content = [] ∧
    Bytes.isBlank content = false

instance (content : Bytes) : Decidable (Misjudged content) := inferInstanceAs (Decidable (_ ∧ _ ∧ _ ∧ _))

lemma edges_paddedContent (hne : content ≠ []) : paddedContent content ≠ [] ∧
    (paddedContent content).head? ≠ some (byte '`') ∧ (paddedContent content).getLast? ≠ some (byte '`') := by
  have hspace : byte ' ' ≠ byte '`' := by decide
  rw [paddedContent]
  split
  · refine ⟨by simp, by simp [hspace], ?_⟩
    rw [List.getLast?_concat]
    simpa using hspace
  · rename_i h
    simp only [Bool.or_eq_true, beq_iff_eq, not_or] at h
    exact ⟨hne, h.1⟩

lemma newline_notMem_paddedContent (h : Bytes.newline ∉ content) : Bytes.newline ∉ paddedContent content := by
  have hspace : Bytes.newline ≠ byte ' ' := by decide
  rw [paddedContent]
  split
  · simp [h, hspace]
  · exact h

lemma isBlank_eq_false_of_mem {b : UInt8} (hb : b ∈ content) (h : Bytes.isSpace b = false) :
    Bytes.isBlank content = false := by
  rw [Bytes.isBlank, List.all_eq_false]
  exact ⟨b, hb, by simp [h]⟩

lemma spanContent_paddedContent_iff (hne : content ≠ []) :
    Inline.spanContent (paddedContent content) = content ↔ ¬ Misjudged content := by
  have hspace : byte '`' ≠ byte ' ' := by decide
  rw [paddedContent]
  split
  · rename_i hpad
    simp only [Bool.or_eq_true, Bool.and_eq_true, beq_iff_eq, Bool.not_eq_true', List.isEmpty_eq_false_iff] at hpad
    have hblank : Bytes.isBlank content = false := by
      obtain (hfirst | hlast) | ⟨-, htrim⟩ := hpad
      · exact isBlank_eq_false_of_mem (List.mem_of_head? hfirst) (by decide)
      · exact isBlank_eq_false_of_mem (List.mem_of_getLast? hlast) (by decide)
      · exact Bool.eq_false_iff.mpr fun h => htrim (trimSpace_of_isBlank h)
    have hspan : Inline.spanContent (byte ' ' :: content ++ [byte ' ']) = content := by
      have hinner : Bytes.isBlank (byte ' ' :: content ++ [byte ' ']) = false := by
        simpa [Bytes.isBlank, show Bytes.isSpace (byte ' ') = true by decide] using hblank
      rw [Inline.spanContent, hinner, List.getLast?_concat]
      simp
    refine iff_of_true hspan ?_
    rintro ⟨hfirst, hlast, htrim, -⟩
    rw [hfirst, hlast, htrim] at hpad
    simp [Ne.symm hspace] at hpad
  · rename_i hpad
    simp only [Bool.or_eq_true, Bool.and_eq_true, beq_iff_eq, Bool.not_eq_true', List.isEmpty_eq_false_iff, not_or, not_and,
      not_not] at hpad
    rw [Inline.spanContent]
    split
    · rename_i hstrip
      simp only [Bool.and_eq_true, beq_iff_eq, Bool.not_eq_true'] at hstrip
      obtain ⟨⟨hblank, hfirst⟩, hlast⟩ := hstrip
      refine iff_of_false (fun h => ?_) fun h => h ⟨hfirst, hlast, hpad.2 ⟨hfirst, hlast⟩, hblank⟩
      have hlen := congrArg List.length h
      have hpos := List.length_pos_iff.mpr hne
      rw [List.length_dropLast, List.length_tail] at hlen
      omega
    · rename_i hkept
      refine iff_of_true rfl ?_
      rintro ⟨hfirst, hlast, -, hblank⟩
      simp [hfirst, hlast, hblank] at hkept

/-- A code span is read back up to its end, whatever follows on the line. It has the same content, unless the content
is white space of another kind than the reader knows between two spaces. -/
theorem codeSpan_codeSpan_iff {source t : Bytes} {c : TextCursor} (hsource : c.rest <+: source.drop c.pos)
    (hp : c.padding = 0) (hne : content ≠ []) (hline : Bytes.newline ∉ content) (hrest : c.rest = codeSpan content ++ t)
    (ht : t.head? ≠ some (byte '`')) :
    let r := Inline.codeSpan source c
    r.1.kind = .codeSpan ∧ r.2 = c.advance (codeSpan content).length ∧
      (r.1.children.flatMap (codeText source) = content ↔ ¬ Misjudged content) := by
  obtain ⟨hpadded, hfirst, hlast⟩ := edges_paddedContent hne
  rw [codeSpan_eq, List.append_assoc, List.append_assoc] at hrest
  have hrun : Bytes.longestRun (byte '`') (paddedContent content) < Bytes.longestRun (byte '`') content + 1 := by
    rw [longestRun_paddedContent]
    omega
  obtain ⟨hkind, hcontent, hcursor⟩ := Inline.codeSpan_ticks hsource hp hrest hrun hpadded hfirst hlast
    (newline_notMem_paddedContent hline) ht
  refine ⟨hkind, ?_, ?_⟩
  · rw [hcursor, codeSpan_eq, List.length_append, List.length_append, List.length_replicate]
  · rw [hcontent]
    exact spanContent_paddedContent_iff hne

/-- A backtick at the front needs a space beside it, and two backticks around it. -/
theorem codeSpan_codeSpan_backtick :
    let content := utf8 "`a"
    let source := codeSpan content ++ utf8 " b"
    let c : TextCursor := ⟨0, 0, 0, [], source, []⟩
    let r := Inline.codeSpan source c
    codeSpan content = utf8 "`` `a ``" ∧ content ≠ [] ∧ Bytes.newline ∉ content ∧ ¬ Misjudged content ∧
      r.1.kind = .codeSpan ∧ r.2 = c.advance (codeSpan content).length ∧
      r.1.children.flatMap (codeText source) = content := by
  intro content source c r
  have hjudged : ¬ Misjudged content := by decide
  obtain ⟨hkind, hcursor, hcontent⟩ := @codeSpan_codeSpan_iff content source (utf8 " b") c (List.prefix_refl _) rfl
    (by decide) (by decide) rfl (by decide)
  exact ⟨by decide, by decide, by decide, hjudged, hkind, hcursor, hcontent.mpr hjudged⟩

/-- A no-break space is blank for the writer only: the content that is read between two spaces on either side is written
with one, which the next reader takes off. -/
theorem codeSpan_codeSpan_no_break_space :
    let content := utf8 " \u00a0 "
    let first := utf8 "`  \u00a0  `"
    let source := codeSpan content
    (Inline.codeSpan first ⟨0, 0, 0, [], first, []⟩).1.children.flatMap (codeText first) = content ∧
      (Inline.codeSpan source ⟨0, 0, 0, [], source, []⟩).1.children.flatMap (codeText source) = utf8 "\u00a0" ∧
      ¬ (Inline.codeSpan source ⟨0, 0, 0, [], source, []⟩).1.children.flatMap (codeText source) = content := by
  decide +kernel

end Writer

end MarkdownTidy
