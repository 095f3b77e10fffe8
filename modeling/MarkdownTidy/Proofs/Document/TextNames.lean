import MarkdownTidy.Document.Parse
import MarkdownTidy.Proofs.Document.BlockNames

/-! Reading the text inside blocks with different names, and with it whole documents: the tree of a
source does not depend on what a spreading set holds. -/

namespace MarkdownTidy

namespace InlineMemory

def withNames (m : InlineMemory) (names : MarkdownAttributes) : InlineMemory :=
  { m with names := names }

def Alike (m n : InlineMemory) : Prop :=
  m.names.spread = true ∧ ∃ k : MarkdownAttributes, k.spread = true ∧ n = m.withNames k

end InlineMemory

namespace InlineState

def withNames (s : InlineState) (names : MarkdownAttributes) : InlineState :=
  { s with memory := s.memory.withNames names }

def Alike (s t : InlineState) : Prop :=
  s.memory.names.spread = true ∧ ∃ k : MarkdownAttributes, k.spread = true ∧ t = s.withNames k

end InlineState

namespace Attempt

def withNames (a : Attempt) (names : MarkdownAttributes) : Attempt :=
  match a with
  | refused s => refused (s.withNames names)
  | applied s c => applied (s.withNames names) c

@[simp] lemma names_withNames (a : Attempt) (names : MarkdownAttributes) :
    (a.withNames names).state.memory.names = names := by
  cases a <;> rfl

def Alike (a b : Attempt) : Prop :=
  a.state.memory.names.spread = true ∧ ∃ k : MarkdownAttributes, k.spread = true ∧ b = a.withNames k

end Attempt

namespace Inline

variable (scope : InlineScope) (s : InlineState) (names : MarkdownAttributes) (c : TextCursor)

lemma closeBracket_withNames :
    closeBracket scope (s.withNames names) c = (closeBracket scope s c).withNames names := by
  rcases s with ⟨pieces, _ | ⟨⟨b, before⟩, outer⟩, memory⟩
  · rfl
  · change closeBracket scope ⟨pieces, (b, before) :: outer, memory.withNames names⟩ c = _
    simp only [closeBracket]
    split
    · rfl
    · cases target? scope b c.pos c.step <;> rfl

lemma link_withNames : link scope (s.withNames names) c = (link scope s c).withNames names := by
  simp only [link]
  cases c.line with
  | nil => rfl
  | cons a rest =>
    simp only
    split
    · split <;> rfl
    · split
      · rfl
      · exact closeBracket_withNames scope s names c

lemma footnoteIndex?_withNames (m : InlineMemory) (label : Bytes) :
    footnoteIndex? (m.withNames names) label =
      (footnoteIndex? m label).map fun p => (p.1, p.2.withNames names) := by
  have hf : (m.withNames names).footnotes = m.footnotes := rfl
  simp only [footnoteIndex?, hf]
  generalize List.find? _ m.footnotes = found
  rcases found with _ | ⟨l, _ | i⟩ <;> rfl

lemma footnote?_withNames :
    footnote? scope (s.withNames names) c =
      (footnote? scope s c).map fun p => (p.1.withNames names, p.2) := by
  have hm : (s.withNames names).memory = s.memory.withNames names := rfl
  simp only [footnote?, hm, footnoteIndex?_withNames]
  generalize (c.line.head? == some (byte '!')) = marked
  generalize (if marked then 2 else 1) = width
  by_cases hc : ((c.line.drop width).head? != some (byte '^')) = true
  · rw [if_pos hc, if_pos hc]
    rfl
  · rw [if_neg hc, if_neg hc]
    cases searchLine (byte '[') (byte ']') 0 false (c.line.drop (width + 1)) with
    | found n =>
      simp only
      rcases footnoteIndex? s.memory _ with _ | ⟨i, m⟩
      · rfl
      · cases marked <;> rfl
    | _ => rfl

lemma linkify?_withNames :
    linkify? (s.withNames names) c = (linkify? s c).map fun p => (p.1.withNames names, p.2) := by
  have ho : (s.withNames names).open_ = s.open_ := rfl
  simp only [linkify?, ho]
  split
  · rfl
  · split
    · rfl
    · split <;> rfl

lemma delimiter_withNames (strike : Bool) :
    delimiter scope strike (s.withNames names) c = (delimiter scope strike s c).withNames names := by
  simp only [delimiter]
  cases Delimiter.scan c.line _ c.pos with
  | none => rfl
  | some d =>
    simp only
    split <;> rfl

lemma attempt_withNames {r : InlineRule} (hr : ∀ source, r ≠ .shortcode source) :
    attempt scope (s.withNames names) c r = (attempt scope s c r).withNames names := by
  cases r with
  | taskCheckBox =>
    have hb : taskCheckBox? scope (s.withNames names) c = taskCheckBox? scope s c := rfl
    simp only [attempt, hb]
    rcases taskCheckBox? scope s c with _ | ⟨n, c'⟩ <;> rfl
  | codeSpan => rfl
  | footnote =>
    simp only [attempt, footnote?_withNames]
    rcases footnote? scope s c with _ | ⟨s', c'⟩ <;> rfl
  | link => exact link_withNames scope s names c
  | autoLink =>
    simp only [attempt]
    rcases autoLink? c with _ | ⟨n, c'⟩ <;> rfl
  | rawHtml =>
    simp only [attempt]
    rcases rawHtml? c with _ | ⟨n, c'⟩ <;> rfl
  | emphasis => exact delimiter_withNames scope s names c false
  | strikethrough => exact delimiter_withNames scope s names c true
  | linkify =>
    simp only [attempt, linkify?_withNames]
    rcases linkify? s c with _ | ⟨s', c'⟩ <;> rfl
  | alert =>
    have ha : alert? scope (s.withNames names) c = alert? scope s c := rfl
    simp only [attempt, ha]
    rcases alert? scope s c with _ | ⟨n, c'⟩ <;> rfl
  | attributeList =>
    simp only [attempt]
    rcases attributeList? c with _ | ⟨n, c'⟩ <;> rfl
  | shortcode source => exact absurd rfl (hr source)
  | never t => rfl

lemma shortcode?_sameAnswer (source : ShortcodeSource) {m n : MarkdownAttributes}
    (hm : m.spread = true) (hn : n.spread = true) :
    Shortcode.SameAnswer (shortcode? scope source m c) (shortcode? scope source n c) := by
  rw [shortcode?, shortcode?]
  split
  · exact ⟨rfl, hm, hn⟩
  · cases source.own with
    | some own => exact ⟨rfl, hm, hn⟩
    | none =>
      obtain ⟨he, hm', hn'⟩ := Shortcode.tokenize?_sameAnswer source.reader hm hn
        ((collect c).flatMap (·.text))
      refine ⟨?_, hm', hn'⟩
      simp only [he]

variable {s} {t : InlineState} (h : s.Alike t)
include h

lemma attempt_alike (r : InlineRule) : (attempt scope s c r).Alike (attempt scope t c r) := by
  obtain ⟨hs, k, hk, rfl⟩ := h
  by_cases hr : ∃ source, r = .shortcode source
  · obtain ⟨source, rfl⟩ := hr
    have ha := shortcode?_sameAnswer scope c source hs hk
    have hnames : (s.withNames k).memory.names = k := rfl
    revert ha
    simp only [attempt, hnames]
    rcases shortcode? scope source s.memory.names c with ⟨x, m⟩
    rcases shortcode? scope source k c with ⟨y, n⟩
    rintro ⟨rfl, hm, hn⟩
    cases x <;> exact ⟨hm, n, hn, rfl⟩
  · have hr' : ∀ source, r ≠ .shortcode source := fun source he => hr ⟨source, he⟩
    -- Putting back the names a state has already shows that they are left alone.
    have hsame : (attempt scope s c r).state.memory.names = s.memory.names := by
      have he : attempt scope s c r = _ := attempt_withNames scope s s.memory.names c hr'
      rw [he, Attempt.names_withNames]
    exact ⟨hsame ▸ hs, k, hk, attempt_withNames scope s k c hr'⟩

omit h in
lemma firstOf_alike (atOnce : Bool) (rules : List InlineRule) {s t : InlineState} (h : s.Alike t) :
    (firstOf scope c atOnce s rules).1.Alike (firstOf scope c atOnce t rules).1 ∧
      (firstOf scope c atOnce s rules).2 = (firstOf scope c atOnce t rules).2 := by
  induction rules generalizing atOnce s t with
  | nil =>
    obtain ⟨hs, k, hk, rfl⟩ := h
    exact ⟨⟨hs, k, hk, rfl⟩, rfl⟩
  | cons r rules ih =>
    obtain ⟨hs, k, hk, he⟩ := attempt_alike scope c h r
    simp only [firstOf, he]
    cases ha : attempt scope s c r with
    | refused s' =>
      rw [ha] at hs
      exact ih false ⟨hs, k, hk, rfl⟩
    | applied s' c' =>
      rw [ha] at hs
      exact ⟨⟨hs, k, hk, rfl⟩, rfl⟩

end Inline

namespace Inline.Reading

def Alike (r q : Reading) : Prop :=
  r.state.Alike q.state ∧ q = { r with state := q.state }

variable (scope : InlineScope)

lemma finishLine_alike (source : Bytes) {r q : Reading} (h : r.Alike q) :
    (r.finishLine source).Alike (q.finishLine source) := by
  obtain ⟨⟨hs, k, hk, ht⟩, hq⟩ := h
  rw [ht] at hq
  subst hq
  exact ⟨hs, k, hk, rfl⟩

lemma begin_alike {s t : InlineState} (h : s.Alike t) (c : TextCursor) (escaped : Bool) :
    (begin s c escaped).Alike (begin t c escaped) := ⟨h, rfl⟩

lemma run_alike (fuel : Nat) {r q : Reading} (h : r.Alike q) :
    (run scope fuel r).Alike (run scope fuel q) := by
  induction fuel generalizing r q with
  | zero => exact h.1
  | succ fuel ih =>
    have hfinish := finishLine_alike scope.source h
    obtain ⟨hs, hq⟩ := h
    generalize q.state = t at hs hq
    subst hq
    have hnext : InlineState.Alike
        (if r.cursor.nextLine.atEnd then r.finishLine scope.source
          else run scope fuel (begin (r.finishLine scope.source) r.cursor.nextLine r.escaped))
        (if r.cursor.nextLine.atEnd then finishLine scope.source { r with state := t }
          else run scope fuel
            (begin (finishLine scope.source { r with state := t }) r.cursor.nextLine r.escaped)) := by
      split
      · exact hfinish
      · exact ih (begin_alike hfinish _ _)
    simp only [run]
    split
    · exact hnext
    · exact hnext
    · rename_i b rest _ _
      split
      · exact hnext
      · generalize (if (Bytes.isPunct b && !r.escaped) || Bytes.isSpace b || r.fresh then
            scope.grammar.inlineRulesFor _ else []) = rules
        split
        · exact ih ⟨hs, rfl⟩
        · have hpush : (if r.fresh then r.state
              else r.state.pushText ⟨r.start, r.cursor.pos, 0⟩).Alike
              (if r.fresh then t else t.pushText ⟨r.start, r.cursor.pos, 0⟩) := by
            split
            · exact hs
            · obtain ⟨hs, k, hk, rfl⟩ := hs
              exact ⟨hs, k, hk, rfl⟩
          have hf := firstOf_alike scope r.cursor true rules hpush
          revert hf
          rcases firstOf scope r.cursor true _ rules with ⟨x, atOnce⟩
          rcases firstOf scope r.cursor true (if r.fresh then t else _) rules with ⟨y, atOnce'⟩
          rintro ⟨⟨hx, k, hk, rfl⟩, rfl⟩
          cases x with
          | applied s' c =>
            simp only [Attempt.withNames]
            split
            · exact ⟨hx, k, hk, rfl⟩
            · exact ih ⟨⟨hx, k, hk, rfl⟩, rfl⟩
          | refused s' => exact ih ⟨⟨hx, k, hk, rfl⟩, rfl⟩

end Inline.Reading

lemma Inline.read_alike (scope : InlineScope) {m n : InlineMemory} (h : m.Alike n) :
    (Inline.read scope m).1 = (Inline.read scope n).1 ∧
      (Inline.read scope m).2.Alike (Inline.read scope n).2 := by
  rw [Inline.read, Inline.read]
  split
  · exact ⟨rfl, h⟩
  · obtain ⟨hm, k, hk, rfl⟩ := h
    have hbegin : (Inline.Reading.begin ⟨[], [], m⟩ (TextCursor.ofLines scope.lines) false).Alike
        (Inline.Reading.begin ⟨[], [], m.withNames k⟩ (TextCursor.ofLines scope.lines) false) :=
      ⟨⟨hm, k, hk, rfl⟩, rfl⟩
    obtain ⟨hs, k', hk', he⟩ := Inline.Reading.run_alike scope
      (2 * (scope.lines.map fun l => l.text.length + 2).foldl (· + ·) 0 + 2) hbegin
    simp only [he]
    exact ⟨rfl, hs, k', hk', rfl⟩

mutual

lemma readText_alike (t : TextScope) (holder : Kind) (first : Bool) {m n : InlineMemory}
    (h : m.Alike n) : ∀ node : Node, (readText t holder first m node).1 = (readText t holder first n node).1 ∧
      (readText t holder first m node).2.Alike (readText t holder first n node).2
  | .mk info children => by
    have hc := readTexts_alike t info.kind true h children
    revert hc
    simp only [readText]
    rcases readTexts t info.kind true m children with ⟨x, m'⟩
    rcases readTexts t info.kind true n children with ⟨y, n'⟩
    rintro ⟨rfl, h'⟩
    simp only
    split
    · exact ⟨rfl, h'⟩
    · have hr := Inline.read_alike
        ⟨t.grammar, t.source, textLines t.source info.lines, t.references, holder, first⟩ h'
      exact ⟨by simp only [hr.1], hr.2⟩

lemma readTexts_alike (t : TextScope) (holder : Kind) (first : Bool) {m n : InlineMemory}
    (h : m.Alike n) : ∀ nodes : List Node,
      (readTexts t holder first m nodes).1 = (readTexts t holder first n nodes).1 ∧
        (readTexts t holder first m nodes).2.Alike (readTexts t holder first n nodes).2
  | [] => ⟨rfl, h⟩
  | node :: nodes => by
    have hn := readText_alike t holder first h node
    revert hn
    simp only [readTexts]
    rcases readText t holder first m node with ⟨x, m'⟩
    rcases readText t holder first n node with ⟨y, n'⟩
    rintro ⟨rfl, h'⟩
    have hs := readTexts_alike t holder false h' nodes
    exact ⟨by simp only [hs.1], hs.2⟩

end

lemma readDocument_alike (g : Grammar) {m n : MarkdownAttributes} (hm : m.spread = true)
    (hn : n.spread = true) (source : Bytes) :
    (readDocument g m source).memory.Alike (readDocument g n source).memory ∧
      readDocument g n source =
        { readDocument g m source with memory := (readDocument g n source).memory } := by
  have hb := readBlocks_alike g hm hn source
  revert hb
  simp only [readDocument]
  rcases readBlocks g m source with ⟨blocks, a⟩
  rcases readBlocks g n source with ⟨blocks', b⟩
  rintro ⟨rfl, ha, k, hk, rfl⟩
  have hf : (a.withMarks k a.overrun?).footnotes = a.footnotes := rfl
  have hr : (a.withMarks k a.overrun?).references = a.references := rfl
  simp only [hf, hr]
  generalize a.footnotes.map _ = labels
  have hmem : InlineMemory.Alike ⟨a.names, labels, []⟩ ⟨(a.withMarks k a.overrun?).names, labels, []⟩ :=
    ⟨ha, k, hk, rfl⟩
  obtain ⟨hnodes, hmem'⟩ := readTexts_alike ⟨g, source, a.references⟩ .document true hmem
    (Footnotes.fillNodes a.footnotes blocks)
  refine ⟨hmem', ?_⟩
  simp only [hnodes]
  rfl

lemma parseDocument_sameAnswer (g : Grammar) {m n : MarkdownAttributes} (hm : m.spread = true)
    (hn : n.spread = true) (source : Bytes) :
    Shortcode.SameAnswer (parseDocument g m source) (parseDocument g n source) := by
  obtain ⟨⟨hs, k, hk, hmem⟩, hdoc⟩ := readDocument_alike g hm hn source
  rw [hmem] at hdoc
  rw [parseDocument, parseDocument, hdoc]
  simp only [RawDocument.finish, RawDocument.resolvePipes]
  split <;> exact ⟨rfl, hs, hk⟩

end MarkdownTidy
