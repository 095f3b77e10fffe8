import Mathlib.Data.List.Infix
import MarkdownTidy.Pipeline.Basic
import MarkdownTidy.Proofs.Document.InlineShortcode
import MarkdownTidy.Proofs.Document.OpeningStates

/-! Where a block shortcode ends. The end is recorded as an offset in the source, but it is counted from an
offset in the line, and the columns of a tab that a container took only in part count there without being
bytes of the source: the recorded end is too far by the padding of the line. -/

namespace MarkdownTidy

namespace Indent

lemma measure_snd_le_fst (s : Bytes) (column : Nat) : (measure s column).2 ≤ (measure s column).1 := by
  have hgo : ∀ w n, n ≤ w → (measure.go column w n s).2 ≤ (measure.go column w n s).1 := by
    induction s with
    | nil => exact fun _ _ h => h
    | cons c s ih =>
      intro w n h
      rw [measure.go]
      split
      · exact ih _ _ (by omega)
      · split
        · have hwidth : 1 ≤ tabWidth (column + w) := by
            rw [tabWidth]
            omega
          exact ih _ _ (by omega)
        · exact h
  exact hgo 0 0 le_rfl

lemma le_measure_snd_spaces (k : Nat) (s : Bytes) (column : Nat) :
    k ≤ (measure (Bytes.spaces k ++ s) column).2 := by
  have hle : ∀ (t : Bytes) w n, n ≤ (measure.go column w n t).2 := by
    intro t
    induction t with
    | nil => exact fun _ _ => le_rfl
    | cons c t ih =>
      intro w n
      rw [measure.go]
      split
      · exact (Nat.le_succ n).trans (ih _ _)
      · split
        · exact (Nat.le_succ n).trans (ih _ _)
        · exact le_rfl
  have hgo : ∀ w n, n + k ≤ (measure.go column w n (Bytes.spaces k ++ s)).2 := by
    induction k with
    | zero => exact fun w n => hle _ w n
    | succ k ih =>
      intro w n
      rw [Bytes.spaces_succ, List.cons_append, measure.go, if_pos (by simp)]
      exact le_of_eq_of_le (by omega) (ih (w + 1) (n + 1))
  simpa [measure] using hgo 0 0

end Indent

namespace LineCursor

lemma rest_eq {c : LineCursor} (h : c.rest ≠ []) :
    c.rest = Bytes.spaces c.padding ++ c.line.text.drop c.taken := by
  rw [rest, peek?] at h ⊢
  split
  · rename_i hdrop
    simp [hdrop] at h
  · rfl

end LineCursor

namespace Opening

variable {source : Bytes} {c : LineCursor} {pos : Nat}

lemma lt_of_blockOffset? (hpos : blockOffset? c = some pos) :
    pos = (Indent.measure c.rest c.column).2 ∧ pos < c.rest.length := by
  rw [blockOffset?] at hpos
  simp only at hpos
  split at hpos
  · cases hpos
  · cases hpos
    have hle := Indent.measure_snd_le_fst c.rest c.column
    exact ⟨rfl, by omega⟩

lemma padding_le_of_blockOffset? (hpos : blockOffset? c = some pos) : c.padding ≤ pos := by
  obtain ⟨hcount, hlt⟩ := lt_of_blockOffset? hpos
  have hne : c.rest ≠ [] := List.ne_nil_of_length_pos (by omega)
  rw [hcount, LineCursor.rest_eq hne]
  exact Indent.le_measure_snd_spaces _ _ _

lemma rest_isPrefix (h : c.On source) (hpos : blockOffset? c = some pos) :
    c.rest.drop pos <+: source.drop (c.span.start + (pos - c.padding)) ∧
      c.span.start + (pos - c.padding) ≤ source.length := by
  obtain ⟨-, hlt⟩ := lt_of_blockOffset? hpos
  have hpadding := padding_le_of_blockOffset? hpos
  have hrest := LineCursor.rest_eq (c := c) (List.ne_nil_of_length_pos (by omega))
  have hstop := h.line.stop_le
  have htaken := h.taken
  have hdrop : c.rest.drop pos = c.line.text.drop (c.taken + (pos - c.padding)) := by
    rw [hrest, List.drop_append, List.drop_of_length_le (by simpa using hpadding), List.nil_append,
      Bytes.length_spaces, List.drop_drop]
  rw [hrest, List.length_append, List.length_drop, Bytes.length_spaces] at hlt
  have hpart := h.line.isPrefix.drop (c.taken + (pos - c.padding))
  rw [List.drop_drop] at hpart
  rw [hdrop, LineCursor.span, Nat.add_assoc]
  exact ⟨hpart, by omega⟩

def shortcodeText (source : Bytes) (holder : Holder) (c : LineCursor) (pos : Nat) : Bytes :=
  if holder == .document then source.drop (c.span.start + pos) else c.rest.drop pos

lemma shortcodeText_isPrefix {o : OpeningState} (h : o.On source)
    (hpos : blockOffset? o.cursor = some pos) :
    shortcodeText source o.holder o.cursor pos <+:
      source.drop (o.cursor.span.start + (pos - o.cursor.padding)) := by
  rw [shortcodeText]
  split
  · rename_i hdocument
    rw [h.padding (by simpa using hdocument), Nat.sub_zero]
  · exact (rest_isPrefix h.cursor hpos).1

lemma le_length_of_tokenize {s : ShortcodeSource} {m : MarkdownAttributes} {text : Bytes} {n : Nat}
    {sc : Shortcode} (h : (tokenize s m text).1 = some (n, sc)) : n ≤ text.length := by
  obtain ⟨-, u, t, rfl, rfl⟩ := tokenize_eq_append h
  simp

lemma shortcodeAt_eq (s : ShortcodeSource) (holder : Holder) (m : MarkdownAttributes)
    (hpos : blockOffset? c = some pos) :
    (shortcodeAt s source holder m c).1 =
      (tokenize s m (shortcodeText source holder c pos)).1.map fun r => (r.2, c.span.start + pos + r.1) := by
  rw [shortcodeAt, hpos, shortcodeText]

lemma shortcode_eq (s : ShortcodeSource) (holder : Holder) (m : MarkdownAttributes)
    (hpos : blockOffset? c = some pos) :
    (shortcode s source holder m c).1 =
      (tokenize s m (shortcodeText source holder c pos)).1.bind fun r =>
        if c.span.start + pos + r.1 ≤ source.length &&
            Bytes.isBlank ((source.drop (c.span.start + pos + r.1)).takeWhile (· != Bytes.newline)) then
          some { block := .shortcode r.2 (c.span.start + pos + r.1), cursor := c.toLastByte }
        else none := by
  change (shortcodeAt s source holder m c).1.bind _ = _
  rw [shortcodeAt_eq s holder m hpos, Option.bind_map]
  rfl

lemma shortcodeOverrun?_eq (s : ShortcodeSource) (holder : Holder) (m : MarkdownAttributes)
    (hpos : blockOffset? c = some pos) :
    shortcodeOverrun? s source holder m c =
      (tokenize s m (shortcodeText source holder c pos)).1.bind fun r =>
        if c.span.start + pos + r.1 ≤ source.length then none
        else some ⟨c.span.start + pos + r.1, source.length⟩ := by
  rw [shortcodeOverrun?, shortcodeAt_eq s holder m hpos, Option.bind_map]
  rfl

/-- The first `n` bytes of a text end at the offset `stop` of the source. -/
structure EndsAt (source text : Bytes) (n stop : Nat) : Prop where
  length_le : n ≤ text.length
  stop_le : stop ≤ source.length
  le_stop : n ≤ stop
  slice_eq : Bytes.slice source (stop - n) stop = text.take n

lemma endsAt_of_isPrefix {text : Bytes} {n first : Nat} (hle : first ≤ source.length)
    (htext : text <+: source.drop first) (hn : n ≤ text.length) : EndsAt source text n (first + n) := by
  have hlen := htext.length_le
  rw [List.length_drop] at hlen
  refine ⟨hn, by omega, Nat.le_add_left _ _, ?_⟩
  obtain ⟨r, hr⟩ := htext
  rw [Nat.add_sub_cancel, Bytes.slice, Nat.add_sub_cancel_left, ← hr, List.take_append_of_le_length hn]

/-- Wherever the rule for shortcodes is tried while a source is read, what it looks at lies in the source.
The text it matches ends at an offset `stop` of the source, and the end it works with, and records when it
opens a block, is `stop` plus the padding of the line. So it is right where there is no padding, as is
always the case at the top level; nothing but blanks follows it on the line then. -/
theorem shortcode_stop {g : Grammar} {names : MarkdownAttributes} {o : OpeningState}
    (ho : OpeningState.Reached g names source o) (s : ShortcodeSource) (m : MarkdownAttributes)
    (hpos : blockOffset? o.cursor = some pos) :
    let start := o.cursor.span.start + pos
    let text := shortcodeText source o.holder o.cursor pos
    pos < o.cursor.rest.length ∧
      (o.holder = .document → o.cursor.padding = 0 ∧ start ≤ source.length) ∧
      (∀ n sc, (tokenize s m text).1 = some (n, sc) →
        ∃ stop, EndsAt source text n stop ∧ start + n = stop + o.cursor.padding) ∧
      ∀ b, (shortcode s source o.holder m o.cursor).1 = some b →
        ∃ n sc stop, (tokenize s m text).1 = some (n, sc) ∧ EndsAt source text n stop ∧
          b.block = .shortcode sc (stop + o.cursor.padding) ∧
          (o.cursor.padding = 0 →
            Bytes.isBlank ((source.drop stop).takeWhile (· != Bytes.newline)) = true) := by
  intro start text
  have hon := ho.on
  have hpadding := padding_le_of_blockOffset? hpos
  have hfirst := (rest_isPrefix hon.cursor hpos).2
  have hends : ∀ n sc, (tokenize s m text).1 = some (n, sc) →
      ∃ stop, EndsAt source text n stop ∧ start + n = stop + o.cursor.padding := by
    intro n sc hn
    refine ⟨_, endsAt_of_isPrefix hfirst (shortcodeText_isPrefix hon hpos) (le_length_of_tokenize hn), ?_⟩
    omega
  refine ⟨(lt_of_blockOffset? hpos).2, fun hd => ?_, hends, fun b hb => ?_⟩
  · have hzero := hon.padding hd
    exact ⟨hzero, by omega⟩
  · rw [shortcode_eq s o.holder m hpos] at hb
    obtain ⟨⟨n, sc⟩, hn, hb⟩ := Option.bind_eq_some_iff.mp hb
    obtain ⟨stop, hend, hstop⟩ := hends n sc hn
    simp only [Option.ite_none_right_eq_some, Option.some.injEq] at hb
    obtain ⟨hfits, rfl⟩ := hb
    refine ⟨n, sc, stop, hn, hend, by rw [← hstop], fun hzero => ?_⟩
    rw [hzero, Nat.add_zero] at hstop
    rw [← hstop]
    exact (Bool.and_eq_true_iff.mp hfits).2

/-- A shortcode in a block quote in a list item whose marker is followed by a tab. -/
theorem shortcode_stop_nested :
    let s : ShortcodeSource := ⟨.new (utf8 "\x7b\x7b<") (utf8 ">\x7d\x7d") id, none⟩
    let g : Grammar := ⟨.shortcode s :: Pipeline.defaultBlock.map (·.2), [], true, false⟩
    let source := utf8 "1.\t> \x7b\x7b< x >\x7d\x7d \n"
    ∃ o pos b, OpeningState.Reached g .initial source o ∧ o.holder ≠ .document ∧
      blockOffset? o.cursor = some pos ∧
      (shortcode s source o.holder .initial o.cursor).1 = some b ∧
      ∃ n sc stop, (tokenize s .initial (shortcodeText source o.holder o.cursor pos)).1 = some (n, sc) ∧
        EndsAt source (shortcodeText source o.holder o.cursor pos) n stop ∧
        b.block = .shortcode sc stop := by
  intro s g source
  let front : BlockState := { context := { names := .initial }, cursor := .ofSource source }
  let list := (front.opening? source).get (by decide +kernel)
  let item := (list.step g source true).2
  let quote := (item.step g source true).2
  have hreached : OpeningState.Reached g .initial source (quote.step g source true).2 :=
    (((OpeningState.Reached.line .start (Option.some_get _).symm).step true
      (by decide +kernel)).step true (by decide +kernel)).step true (by decide +kernel)
  have hpos : blockOffset? (quote.step g source true).2.cursor = some 0 := by decide +kernel
  have hopened : (shortcode s source (quote.step g source true).2.holder .initial
      (quote.step g source true).2.cursor).1.isSome = true := by decide +kernel
  have hpadding : (quote.step g source true).2.cursor.padding = 0 := by decide +kernel
  obtain ⟨b, hb⟩ := Option.isSome_iff_exists.mp hopened
  obtain ⟨n, sc, stop, hn, hend, hblock, -⟩ := (shortcode_stop hreached s .initial hpos).2.2.2 b hb
  refine ⟨_, 0, b, hreached, by decide +kernel, hpos, hb, n, sc, stop, hn, hend, ?_⟩
  rw [hblock, hpadding, Nat.add_zero]

/-- A block quote whose marker is followed by a tab: text behind the shortcode goes unseen, and at the end
of the source the recorded end lies behind it. -/
theorem shortcode_stop_padded :
    let s : ShortcodeSource := ⟨.new (utf8 "\x7b\x7b<") (utf8 ">\x7d\x7d") id, none⟩
    let g : Grammar := ⟨.shortcode s :: Pipeline.defaultBlock.map (·.2), [], true, false⟩
    (∃ source o pos n sc b, OpeningState.Reached g .initial source o ∧
      blockOffset? o.cursor = some pos ∧
      (tokenize s .initial (shortcodeText source o.holder o.cursor pos)).1 = some (n, sc) ∧
      (shortcode s source o.holder .initial o.cursor).1 = some b ∧
      ∃ stop, b.block = .shortcode sc stop ∧
        Bytes.slice source (stop - n) stop ≠ (shortcodeText source o.holder o.cursor pos).take n) ∧
    ∃ source o pos n sc, OpeningState.Reached g .initial source o ∧
      blockOffset? o.cursor = some pos ∧
      (tokenize s .initial (shortcodeText source o.holder o.cursor pos)).1 = some (n, sc) ∧
      source.length < o.cursor.span.start + pos + n := by
  intro s g
  constructor
  · let source := utf8 ">\t\x7b\x7b< x >\x7d\x7dab\n"
    let front : BlockState := { context := { names := .initial }, cursor := .ofSource source }
    let quote := (front.opening? source).get (by decide +kernel)
    let o := (quote.step g source true).2
    have hreached : OpeningState.Reached g .initial source o :=
      (OpeningState.Reached.line .start (Option.some_get _).symm).step true (by decide +kernel)
    have hpos : blockOffset? o.cursor = some 2 := by decide +kernel
    have hn : (tokenize s .initial (shortcodeText source o.holder o.cursor 2)).1 =
        some (9, ⟨utf8 "x", []⟩) := by decide +kernel
    have hb := @shortcode_eq source o.cursor 2 s o.holder .initial hpos
    rw [hn, Option.bind_some, if_pos (by decide +kernel)] at hb
    exact ⟨source, o, 2, 9, _, _, hreached, hpos, hn, hb, _, rfl, by decide +kernel⟩
  · let source := utf8 ">\t\x7b\x7b< x >\x7d\x7d"
    let front : BlockState := { context := { names := .initial }, cursor := .ofSource source }
    let quote := (front.opening? source).get (by decide +kernel)
    let o := (quote.step g source true).2
    have hreached : OpeningState.Reached g .initial source o :=
      (OpeningState.Reached.line .start (Option.some_get _).symm).step true (by decide +kernel)
    have hn : (tokenize s .initial (shortcodeText source o.holder o.cursor 2)).1 =
        some (9, ⟨utf8 "x", []⟩) := by decide +kernel
    exact ⟨source, o, 2, 9, _, hreached, by decide +kernel, hn, by decide +kernel⟩

end Opening

end MarkdownTidy
