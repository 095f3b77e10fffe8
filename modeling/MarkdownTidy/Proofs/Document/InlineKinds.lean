import MarkdownTidy.Document.Inline.Parse
import MarkdownTidy.Document.Opening
import Mathlib.Algebra.Group.Nat.Defs
import Mathlib.Tactic.Common

/-! The nodes that inline rules make. Whatever rules are tried and wherever, an inline shortcode is one that
a rule of the grammar recognized in some text, and delimiters and brackets only move nodes about. -/

namespace MarkdownTidy

def Kind.Read (g : Grammar) (src : Bytes) : Kind → Prop
  | .list _ start _ => start < 10 ^ 9
  | .heading level => 1 ≤ level ∧ level ≤ 6
  | .fencedCode info => ∀ s ∈ info, Bytes.newline ∉ s.value src
  | .shortcode sc => ∃ s names text n,
      InlineRule.shortcode s ∈ g.inline ∧ (Opening.tokenize s names text).1 = some (n, sc)
  | _ => True

inductive Node.Read (g : Grammar) (src : Bytes) : Node → Prop
  | mk {info : Info} {children : List Node} (own : info.kind.Read g src) (inner : ∀ n ∈ children, n.Read g src) :
      Read g src (.mk info children)

inductive Piece.Read (g : Grammar) (src : Bytes) : Piece → Prop
  | node {n : Node} (h : n.Read g src) : Read g src (.node n)
  | delimiter (d : Delimiter) : Read g src (.delimiter d)
  | bracket (b : Bracket) : Read g src (.bracket b)
  | wrapped {k : Kind} {inner : List Piece} (own : k.Read g src) (h : ∀ p ∈ inner, p.Read g src) : Read g src (.wrapped k inner)

structure InlineState.Read (g : Grammar) (src : Bytes) (s : InlineState) : Prop where
  pieces : ∀ p ∈ s.pieces, p.Read g src
  open_ : ∀ b ∈ s.open_, ∀ p ∈ b.2, p.Read g src

variable {g : Grammar} {src : Bytes}

lemma Node.Read.own {n : Node} (h : n.Read g src) : n.kind.Read g src := by
  cases h with
  | mk own _ => exact own

lemma Node.Read.inner {n : Node} (h : n.Read g src) : ∀ m ∈ n.children, m.Read g src := by
  cases h with
  | mk _ inner => exact inner

lemma Node.Read.of_leaf {k : Kind} (hk : k.Read g src) : (Node.leaf k []).Read g src := .mk hk (by simp)

lemma Node.Read.ofText (s : Span) : (Node.ofText s).Read g src := .of_leaf trivial

namespace Piece

lemma read_addText {ps : List Piece} (h : ∀ p ∈ ps, p.Read g src) (s : Span) : ∀ p ∈ addText ps s, p.Read g src := by
  have hnew : ∀ p ∈ .node (.ofText s) :: ps, p.Read g src := List.forall_mem_cons.mpr ⟨.node (.ofText s), h⟩
  rw [addText.eq_def]
  split
  · rename_i n earlier
    rw [List.forall_mem_cons] at h
    cases hx : extendText? n s with
    | none => exact hnew
    | some n' =>
      simp only [List.forall_mem_cons]
      refine ⟨.node ?_, h.2⟩
      cases h.1 with
      | node hn =>
        rw [extendText?] at hx
        split at hx
        · split at hx
          · cases hx
            exact .mk trivial hn.inner
          · cases hx
        · cases hx
  · exact hnew

lemma read_settleInner {ps done : List Piece} (hd : ∀ p ∈ done, p.Read g src) (h : ∀ p ∈ ps, p.Read g src) :
    ∀ p ∈ settleInner done ps, p.Read g src := by
  induction ps generalizing done with
  | nil => simpa [settleInner] using hd
  | cons p ps ih =>
    rw [List.forall_mem_cons] at h
    cases p
    case delimiter d => exact ih (read_addText hd d.span) h.2
    all_goals exact ih (List.forall_mem_cons.mpr ⟨h.1, hd⟩) h.2

lemma read_settleAll {ps done : List Piece} (hd : ∀ p ∈ done, p.Read g src) (h : ∀ p ∈ ps, p.Read g src) (after : Bool) :
    ∀ p ∈ settleAll done after ps, p.Read g src := by
  induction ps generalizing done after with
  | nil => simpa [settleAll] using hd
  | cons p ps ih =>
    rw [List.forall_mem_cons] at h
    cases p
    case delimiter d =>
      rw [settleAll]
      refine ih ?_ h.2 _
      split
      · exact List.forall_mem_cons.mpr ⟨.node (.ofText d.span), hd⟩
      · exact read_addText hd d.span
    all_goals exact ih (List.forall_mem_cons.mpr ⟨h.1, hd⟩) h.2 _

lemma read_findOpener {closer d : Delimiter} {ps between inner outer : List Piece} {candidate c : Bool} {n : Nat}
    (hb : ∀ p ∈ between, p.Read g src) (h : ∀ p ∈ ps, p.Read g src)
    (hf : findOpener closer between candidate ps = (some (inner, d, outer, n), c)) :
    (∀ p ∈ inner, p.Read g src) ∧ ∀ p ∈ outer, p.Read g src := by
  induction ps generalizing between candidate with
  | nil => cases hf
  | cons p ps ih =>
    have hb' : ∀ q ∈ p :: between, q.Read g src := List.forall_mem_cons.mpr ⟨h p List.mem_cons_self, hb⟩
    rw [List.forall_mem_cons] at h
    cases p
    case delimiter e =>
      rw [findOpener] at hf
      dsimp only at hf
      split at hf
      · split at hf
        · cases hf
          exact ⟨hb, h.2⟩
        · exact ih hb' h.2 hf
      · exact ih hb' h.2 hf
    all_goals exact ih hb' h.2 hf

lemma read_wrapper (mark : UInt8) (n : Nat) : (Delimiter.wrapper mark n).Read g src := by
  rw [Delimiter.wrapper]
  split <;> exact trivial

lemma read_matchDelimiters {ps done : List Piece} (fuel : Nat) (hd : ∀ p ∈ done, p.Read g src) (h : ∀ p ∈ ps, p.Read g src) :
    ∀ p ∈ matchDelimiters fuel done ps, p.Read g src := by
  induction fuel generalizing done ps with
  | zero => simpa [matchDelimiters, or_imp, forall_and] using ⟨hd, h⟩
  | succ fuel ih =>
    cases ps with
    | nil => simpa [matchDelimiters] using hd
    | cons p ps =>
      have hmove : ∀ q ∈ p :: done, q.Read g src := List.forall_mem_cons.mpr ⟨h p List.mem_cons_self, hd⟩
      rw [List.forall_mem_cons] at h
      cases p
      case delimiter d =>
        rw [matchDelimiters]
        split
        · exact ih hmove h.2
        · split
          · split
            · exact ih (read_addText hd d.span) h.2
            · exact ih hmove h.2
          · rename_i between opener earlier n c hf
            obtain ⟨hinner, houter⟩ := read_findOpener (by simp) hd hf
            refine ih (List.forall_mem_cons.mpr ⟨.wrapped (read_wrapper _ _) (read_settleInner (by simp) hinner), ?_⟩) ?_
            · split
              · exact houter
              · exact List.forall_mem_cons.mpr ⟨.delimiter _, houter⟩
            · split
              · exact h.2
              · exact List.forall_mem_cons.mpr ⟨.delimiter _, h.2⟩
      all_goals exact ih hmove h.2

lemma read_process {ps : List Piece} (h : ∀ p ∈ ps, p.Read g src) : ∀ p ∈ process ps, p.Read g src :=
  read_settleAll (by simp) (read_matchDelimiters _ (by simp) h) false

lemma toNodes_eq_map (ps : List Piece) : toNodes ps = ps.map toNode := by
  induction ps with
  | nil => rfl
  | cons p ps ih => rw [toNodes, ih, List.map_cons]

lemma Read.toNode {p : Piece} (h : p.Read g src) : p.toNode.Read g src := by
  induction h with
  | node h => exact h
  | delimiter d => exact .ofText d.span
  | bracket b => exact .ofText b.span
  | wrapped own _ ih =>
    rw [Piece.toNode, toNodes_eq_map]
    exact .mk own (List.forall_mem_map.mpr ih)

lemma read_toNodes {ps : List Piece} (h : ∀ p ∈ ps, p.Read g src) : ∀ n ∈ toNodes ps, n.Read g src := by
  rw [toNodes_eq_map]
  exact List.forall_mem_map.mpr fun p hp => (h p hp).toNode

end Piece

namespace InlineState.Read

variable {s : InlineState}

lemma push (h : s.Read g src) {p : Piece} (hp : p.Read g src) : (s.push p).Read g src :=
  ⟨List.forall_mem_cons.mpr ⟨hp, h.pieces⟩, h.open_⟩

lemma pushNode (h : s.Read g src) {n : Node} (hn : n.Read g src) : (s.pushNode n).Read g src := h.push (.node hn)

lemma pushText (h : s.Read g src) (span : Span) : (s.pushText span).Read g src :=
  ⟨Piece.read_addText h.pieces span, h.open_⟩

lemma dropBracket (h : s.Read g src) : s.dropBracket.Read g src := by
  rw [InlineState.dropBracket]
  split
  · exact h
  · rename_i b before outer ho
    have hopen := h.open_
    rw [ho, List.forall_mem_cons] at hopen
    refine ⟨fun p hp => ?_, hopen.2⟩
    rcases List.mem_append.mp hp with hp | hp
    · exact h.pieces p hp
    · exact Piece.read_addText hopen.1 b.span p hp

lemma flatten (h : s.Read g src) : ∀ p ∈ s.flatten, p.Read g src := by
  have hfold : ∀ (bs : List (Bracket × List Piece)) (acc : List Piece), (∀ b ∈ bs, ∀ p ∈ b.2, p.Read g src) →
      (∀ p ∈ acc, p.Read g src) →
      ∀ p ∈ bs.foldl (fun acc x => x.2.reverse ++ .bracket x.1 :: acc) acc, p.Read g src := by
    intro bs
    induction bs with
    | nil => exact fun acc _ hacc => hacc
    | cons b bs ih =>
      intro acc hbs hacc
      rw [List.forall_mem_cons] at hbs
      refine ih _ hbs.2 fun p hp => ?_
      rcases List.mem_append.mp hp with hp | hp
      · exact hbs.1 p (List.mem_reverse.mp hp)
      · rcases List.mem_cons.mp hp with rfl | hp
        · exact .bracket _
        · exact hacc p hp
  exact hfold s.open_ _ h.open_ (by simpa using h.pieces)

lemma withMemory (h : s.Read g src) (m : InlineMemory) : { s with memory := m }.Read g src := ⟨h.pieces, h.open_⟩

end InlineState.Read

namespace Inline

variable {scope : InlineScope} {s : InlineState} {c : TextCursor}

lemma read_taskCheckBox {r : Node × TextCursor} (h : taskCheckBox? scope s c = some r) : r.1.Read g src := by
  rw [taskCheckBox?] at h
  split at h
  · dsimp only at h
    split at h
    · cases h
      exact .of_leaf trivial
    · cases h
  · cases h

lemma read_codeSpan (source : Bytes) (c : TextCursor) : (codeSpan source c).1.Read g src := by
  simp only [codeSpan]
  split
  · exact .ofText _
  · exact .mk trivial (List.forall_mem_map.mpr fun _ _ => .of_leaf trivial)

lemma read_autoLink {r : Node × TextCursor} (h : autoLink? c = some r) : r.1.Read g src := by
  rw [autoLink?] at h
  dsimp only at h
  split at h
  · cases h
  · split at h
    · cases h
    · cases h
      exact .of_leaf trivial

lemma read_alert {r : Node × TextCursor} (h : alert? scope s c = some r) : r.1.Read g src := by
  simp only [alert?] at h
  split at h
  · cases h
  · split at h
    · cases h
      exact .mk trivial (by simpa using Node.Read.ofText _)
    · cases h

lemma read_attributeList {r : Node × TextCursor} (h : attributeList? c = some r) : r.1.Read g src := by
  simp only [attributeList?] at h
  split at h
  · cases h
  · obtain ⟨stop, -, rfl⟩ := Option.map_eq_some_iff.mp h
    exact .mk trivial (by simp)

lemma read_footnote (hs : s.Read g src) {r : InlineState × TextCursor} (h : footnote? scope s c = some r) : r.1.Read g src := by
  rw [footnote?] at h
  dsimp only at h
  generalize (if c.line.head? == some (byte '!') then 2 else 1) = k at h
  split at h
  · cases h
  · split at h
    · split at h
      · cases h
      · cases h
        refine InlineState.Read.pushNode (.withMemory ?_ _) (.of_leaf trivial)
        split
        · exact hs.pushNode (.ofText _)
        · exact hs
    · cases h

lemma read_linkify (hs : s.Read g src) {r : InlineState × TextCursor} (h : linkify? s c = some r) : r.1.Read g src := by
  rw [linkify?] at h
  dsimp only at h
  split at h
  · cases h
  · split at h
    · cases h
    · cases h
      refine InlineState.Read.pushNode ?_ (.of_leaf trivial)
      split
      · exact hs.pushText _
      · exact hs

lemma read_closeBracket (hs : s.Read g src) (c : TextCursor) : (closeBracket scope s c).state.Read g src := by
  rw [closeBracket]
  split
  · exact hs
  · rename_i b before outer ho
    have hopen := hs.open_
    rw [ho, List.forall_mem_cons] at hopen
    split
    · exact hs.dropBracket
    · split
      · exact hs.dropBracket
      · rename_i t after ht
        refine ⟨List.forall_mem_cons.mpr ⟨.node (.mk ?_ ?_), hopen.1⟩, hopen.2⟩
        · dsimp only
          split <;> exact trivial
        · exact Piece.read_toNodes (Piece.read_process (by simpa using hs.pieces))

lemma read_link (hs : s.Read g src) (c : TextCursor) : (link scope s c).state.Read g src := by
  have hopen : ∀ b, (openBracket s b).Read g src := fun b =>
    ⟨by simp [openBracket], List.forall_mem_cons.mpr ⟨hs.pieces, hs.open_⟩⟩
  rw [link]
  split
  · split
    · split
      · exact hopen _
      · exact hs
    · split
      · exact hopen _
      · exact read_closeBracket hs c
  · exact hs

lemma read_delimiter (hs : s.Read g src) (strike : Bool) (c : TextCursor) : (delimiter scope strike s c).state.Read g src := by
  simp only [delimiter]
  split
  · exact hs
  · split
    · exact hs
    · exact hs.push (.delimiter _)

lemma tokenize_of_shortcode? {source : ShortcodeSource} {names : MarkdownAttributes} {sc : Shortcode} {c' : TextCursor}
    (h : (shortcode? scope source names c).1 = some (sc, c')) :
    ∃ text n, (Opening.tokenize source names text).1 = some (n, sc) := by
  rw [shortcode?] at h
  split at h
  · cases h
  · obtain ⟨⟨n, sc'⟩, hfound, he⟩ := Option.map_eq_some_iff.mp h
    cases he
    refine ⟨(collect c).flatMap (·.text), n, ?_⟩
    rw [Opening.tokenize]
    cases hown : source.own <;> rwa [hown] at hfound

/-- A rule of the grammar makes only what reading may make. -/
lemma attempt_read (hs : s.Read scope.grammar src) {r : InlineRule} (hr : r ∈ scope.grammar.inline) (c : TextCursor) :
    (attempt scope s c r).state.Read scope.grammar src := by
  cases r
  case taskCheckBox =>
    simp only [attempt]
    split
    · exact hs.pushNode (read_taskCheckBox ‹_›)
    · exact hs
  case codeSpan => exact hs.pushNode (read_codeSpan _ _)
  case footnote =>
    simp only [attempt]
    split
    · exact read_footnote hs ‹_›
    · exact hs
  case link => exact read_link hs c
  case autoLink =>
    simp only [attempt]
    split
    · exact hs.pushNode (read_autoLink ‹_›)
    · exact hs
  case rawHtml =>
    simp only [attempt]
    split
    · rename_i hfound
      obtain ⟨y, -, hy⟩ := Option.map_eq_some_iff.mp hfound
      cases hy
      exact hs.pushNode (.of_leaf trivial)
    · exact hs
  case emphasis => exact read_delimiter hs false c
  case strikethrough => exact read_delimiter hs true c
  case linkify =>
    simp only [attempt]
    split
    · exact read_linkify hs ‹_›
    · exact hs
  case alert =>
    simp only [attempt]
    split
    · exact hs.pushNode (read_alert ‹_›)
    · exact hs
  case attributeList =>
    simp only [attempt]
    split
    · exact hs.pushNode (read_attributeList ‹_›)
    · exact hs
  case never => exact hs
  case shortcode source =>
    have hnames : { s with memory := { s.memory with names := (shortcode? scope source s.memory.names c).2 } }.Read
        scope.grammar src := hs.withMemory _
    simp only [attempt]
    rcases hf : shortcode? scope source s.memory.names c with ⟨_ | ⟨sc, c'⟩, names⟩
    · rw [hf] at hnames
      exact hnames
    · rw [hf] at hnames
      obtain ⟨text, n, htext⟩ := tokenize_of_shortcode? (congrArg Prod.fst hf)
      exact hnames.pushNode (.of_leaf ⟨source, s.memory.names, text, n, hr, htext⟩)

lemma firstOf_read (hs : s.Read scope.grammar src) {rs : List InlineRule} (hr : ∀ r ∈ rs, r ∈ scope.grammar.inline)
    (c : TextCursor) (atOnce : Bool) : (firstOf scope c atOnce s rs).1.state.Read scope.grammar src := by
  induction rs generalizing s atOnce with
  | nil => exact hs
  | cons r rs ih =>
    rw [List.forall_mem_cons] at hr
    have hread := attempt_read hs hr.1 c
    rw [firstOf]
    generalize attempt scope s c r = attempted at hread
    cases attempted with
    | applied s' c' => exact hread
    | refused s' => exact ih hread hr.2 false

namespace Reading

lemma read_finishLine {r : Reading} (h : r.state.Read g src) (source : Bytes) : (r.finishLine source).Read g src :=
  h.pushNode (.of_leaf trivial)

lemma run_read {r : Reading} (h : r.state.Read scope.grammar src) (fuel : Nat) : (run scope fuel r).Read scope.grammar src := by
  induction fuel generalizing r with
  | zero => exact h
  | succ fuel ih =>
    have hnext : (if r.cursor.nextLine.atEnd then r.finishLine scope.source
        else run scope fuel (begin (r.finishLine scope.source) r.cursor.nextLine r.escaped)).Read scope.grammar src := by
      split
      · exact read_finishLine h _
      · exact ih (read_finishLine h _)
    rw [run]
    dsimp only
    split
    · exact hnext
    · exact hnext
    · rename_i b rest _ _
      split
      · exact hnext
      · generalize hrules : (if (Bytes.isPunct b && !r.escaped || Bytes.isSpace b || r.fresh) = true then
          scope.grammar.inlineRulesFor (if (Bytes.isSpace b || !Bytes.isPunct b) = true then byte ' ' else b)
          else []) = rules
        have hmem : ∀ r ∈ rules, r ∈ scope.grammar.inline := by
          rw [← hrules]
          split
          · exact fun r hr => (List.mem_filter.mp hr).1
          · simp
        split
        · exact ih h
        · have hstate : (if r.fresh then r.state else r.state.pushText ⟨r.start, r.cursor.pos, 0⟩).Read
              scope.grammar src := by
            split
            · exact h
            · exact h.pushText _
          have hread := firstOf_read hstate hmem r.cursor true
          generalize firstOf scope r.cursor true _ rules = attempted at hread
          obtain ⟨s' | ⟨s', c'⟩, atOnce⟩ := attempted
          · exact ih hread
          · dsimp only
            split
            · exact hread
            · exact ih hread

end Reading

lemma read_nodes (scope : InlineScope) (m : InlineMemory) : ∀ n ∈ (read scope m).1, n.Read scope.grammar src := by
  rw [read]
  dsimp only
  split
  · simp
  · refine Piece.read_toNodes (Piece.read_process (InlineState.Read.flatten (Reading.run_read ⟨?_, ?_⟩ _)))
    · simp [Reading.begin]
    · simp [Reading.begin]

end Inline

end MarkdownTidy
