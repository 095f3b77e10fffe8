import MarkdownTidy.Proofs.Document.ItemLine
import MarkdownTidy.Proofs.Document.MarginParagraph

/-! A heading that is written on a line of its own, and the text that is read of it. -/

namespace MarkdownTidy

open Plain.Block (headingLine)

namespace Heading

def lead (level : Nat) : Bytes := List.replicate level (byte '#') ++ [byte ' ']

def spans (level : Nat) (t : Bytes) : List Span :=
  if (kept t).isEmpty then [] else [⟨level + 1, level + 1 + (kept t).length, 0⟩]

variable {t y : Bytes} {level : Nat}

lemma length_lead : (lead level).length = level + 1 := by simp [lead]

def Closed (t : Bytes) : Prop :=
  ∃ front n, t = front ++ List.replicate (n + 1) (byte '#') ∧ ∀ b ∈ front.getLast?, Bytes.isSpace b = true

lemma kept_ne_iff : kept t ≠ t ↔ Closed t := by
  constructor
  · intro h
    rw [kept] at h
    split at h
    · rename_i hfront
      have hsplit := List.rdropWhile_append_rtakeWhile (p := (· == byte '#')) (l := t)
      have hrun : t.rtakeWhile (· == byte '#') = List.replicate (t.rtakeWhile (· == byte '#')).length (byte '#') :=
        List.eq_replicate_iff.mpr ⟨rfl, fun b hb => by simpa using List.mem_rtakeWhile_imp hb⟩
      obtain ⟨n, hn⟩ : ∃ n, (t.rtakeWhile (· == byte '#')).length = n + 1 := by
        refine Nat.exists_eq_succ_of_ne_zero fun hzero => h ?_
        rw [List.length_eq_zero_iff.mp hzero, List.append_nil] at hsplit
        exact hsplit
      rw [hn] at hrun
      exact ⟨_, n, by rw [← hrun, hsplit], by simpa [Option.all_eq_true] using hfront⟩
    · exact absurd rfl h
  · rintro ⟨front, n, rfl, hspace⟩ h
    have hlast : ∀ b ∈ front.getLast?, (b == byte '#') = false := by
      intro b hb
      rw [beq_eq_false_iff_ne]
      rintro rfl
      cases hspace _ hb
    have hdrop : (front ++ List.replicate (n + 1) (byte '#')).rdropWhile (· == byte '#') = front := by
      rw [← Bytes.trimRight_eq_rdropWhile, Bytes.trimRight_append_of_all, Bytes.trimRight_eq_self hlast]
      intro b hb
      rw [List.eq_of_mem_replicate hb]
      rfl
    rw [kept] at h
    rw [hdrop, if_pos (by simpa [Option.all_eq_true] using hspace)] at h
    simp at h

instance : Decidable (Closed t) := decidable_of_iff (kept t ≠ t) kept_ne_iff

lemma headingLine_eq (h : t ≠ []) : headingLine level t = lead level ++ t := by
  rw [headingLine, if_neg (by simpa using h), lead, List.append_assoc, List.singleton_append]

lemma value_spans (level : Nat) (t : Bytes) : spansValue (headingLine level t ++ [Bytes.newline]) (spans level t) = kept t := by
  rw [spans]
  split
  · rename_i h
    rw [List.isEmpty_iff.mp h]
    rfl
  · rename_i h
    obtain ⟨x, hx⟩ := kept_isPrefix t
    have hne : t ≠ [] := by
      rintro rfl
      exact h (by rw [List.prefix_nil.mp (kept_isPrefix [])]; rfl)
    have hcovers : Span.Covers (headingLine level t ++ [Bytes.newline]) ⟨level + 1, level + 1 + (kept t).length, 0⟩ (kept t) := by
      refine ⟨rfl, rfl, ?_⟩
      rw [headingLine_eq hne, List.append_assoc, ← length_lead, List.drop_left]
      exact (kept_isPrefix t).trans (List.prefix_append _ _)
    rw [spansValue, List.flatMap_singleton, hcovers.value_eq]

end Heading

open Heading

variable {level : Nat} {t : Bytes}

/-! ### The line -/

lemma Opening.atxHeading_headingLine (hlow : 1 ≤ level) (hhigh : level ≤ 6) (hhead : ∀ b ∈ t.head?, Bytes.isSpace b = false)
    (hlast : ∀ b ∈ t.getLast?, Bytes.isSpace b = false) :
    atxHeading (.front 0 0 [headingLine level t]) =
      some { block := .heading level, lines := spans level t, cursor := .front 0 0 [headingLine level t] } := by
  have hoffset : blockOffset? (.front 0 0 [headingLine level t]) = some ([] : Bytes).length := by
    obtain ⟨k, rfl⟩ : ∃ k, level = k + 1 := ⟨level - 1, by omega⟩
    rw [blockOffset?, LineCursor.rest_front_cons, headingLine, List.replicate_succ, List.cons_append, List.cons_append,
      measure_cons rfl]
    rfl
  by_cases hne : t = []
  · subst hne
    refine atxHeading_blank (y := [Bytes.newline]) hoffset ⟨hlow, hhigh⟩ ?_ (by simp) (List.forall_mem_singleton.mpr rfl)
    rw [LineCursor.rest_front_cons]
    simp [headingLine]
  · have hline : (LineCursor.front 0 0 [headingLine level t]).rest =
        [] ++ (List.replicate level (byte '#') ++ [byte ' ']) ++ (t ++ [Bytes.newline]) := by
      rw [LineCursor.rest_front_cons, headingLine_eq hne, lead, List.append_assoc, List.nil_append]
    rw [atxHeading_text hoffset ⟨hlow, hhigh⟩ hline (by simp) (List.forall_mem_singleton.mpr rfl) hne hhead hlast (by simp)
      (List.forall_mem_singleton.mpr rfl), span_front]
    simp [spans, LineCursor.front]

/-! ### The block -/

section

variable (hlow : 1 ≤ level) (hhigh : level ≤ 6) (hn : Bytes.newline ∉ t) (hhead : ∀ b ∈ t.head?, Bytes.isSpace b = false)
  (hlast : ∀ b ∈ t.getLast?, Bytes.isSpace b = false) (names : MarkdownAttributes)
include hlow hhigh hn hhead hlast

open BlockState in
/-- A heading on a line of its own is read as a heading. -/
theorem readBlocks_heading :
    ∃ blank, readBlocks Plain.grammar names (headingLine level t ++ [Bytes.newline]) =
      ([.mk { kind := .heading level, lines := spans level t, blankBefore := blank } []], { names := names }) := by
  obtain ⟨x, hcons⟩ : ∃ x, headingLine level t = byte '#' :: x := by
    obtain ⟨k, rfl⟩ : ∃ k, level = k + 1 := ⟨level - 1, by omega⟩
    exact ⟨_, rfl⟩
  have hline : ∀ l ∈ [headingLine level t], Bytes.newline ∉ l := by
    rw [List.forall_mem_singleton, headingLine, List.mem_append, not_or]
    refine ⟨fun h => absurd (List.eq_of_mem_replicate h) (by decide), ?_⟩
    split
    · simp
    · rw [List.mem_cons, not_or]
      exact ⟨by decide, hn⟩
  have hblank : Bytes.isBlank (headingLine level t) = false := by rw [hcons]; rfl
  have hsource : headingLine level t ++ [Bytes.newline] = Bytes.unlines [headingLine level t] := by simp [Bytes.unlines]
  have hlen : (Bytes.lines (Bytes.unlines [headingLine level t])).length = 1 := by
    rw [Bytes.lines_unlines hline, List.length_map, List.length_singleton]
  have hopened := Opening.atxHeading_headingLine hlow hhigh hhead hlast
  obtain ⟨blank, hread⟩ := @readLines_first (Bytes.unlines [headingLine level t]) 0 0 (headingLine level t) []
    { context := { names := names }, cursor := .front 0 0 [headingLine level t] } rfl rfl hblank 1
  have hrules : (OpeningState.start { names := names } (.front 0 0 [headingLine level t]) [] []).rules Plain.grammar
      (headingLine level t ++ [Bytes.newline]) = [.atxHeading, .codeBlock, .paragraph] := by
    rw [hcons]
    exact OpeningState.rules_cons rfl rfl
  have hfound : Opening.firstOf (Bytes.unlines [headingLine level t])
      (OpeningState.start { names := names } (.front 0 0 [headingLine level t]) [] []).place
      (.front 0 0 [headingLine level t]) { names := names } [.atxHeading, .codeBlock, .paragraph] =
      ({ names := names },
        some { block := .heading level, lines := spans level t, cursor := .front 0 0 [headingLine level t] }) := by
    simp only [Opening.firstOf, Opening.try_, hopened]
  have hfront : (headingLine level t ++ [Bytes.newline]).head? ≠ some Bytes.newline := by
    rw [hcons]
    exact fun he => absurd (Option.some.inj he) (by decide)
  rw [← hrules] at hfound
  have hopen : openAfter Plain.grammar (Bytes.unlines [headingLine level t])
      { context := { names := names }, cursor := .front 0 0 [headingLine level t] } blank [] []
      (.front 0 0 [headingLine level t]) =
        { context := { names := names }, cursor := .front 0 0 [headingLine level t],
          frames := [⟨.heading level, blank, spans level t, []⟩] } := by
    rw [openAfter_nil, OpeningState.run_opens LineCursor.peek?_front_cons hfront rfl hfound]
    rfl
  rw [hopen] at hread
  dsimp only at hread
  rw [List.isEmpty_cons, if_neg Bool.false_ne_true] at hread
  have hnext : (LineCursor.front 0 0 [headingLine level t]).nextLine.peek? = none := by
    rw [LineCursor.nextLine_of_sameLine (.refl _), LineCursor.peek?_front_nil]
  replace hread := hread.trans (readLines_end rfl hnext 0)
  refine ⟨blank, ?_⟩
  rw [hsource, readBlocks, hlen, LineCursor.ofSource_unlines hline]
  rw [hread]
  rfl

/-- The document of a heading on a line of its own is that heading with what is kept of its text. -/
theorem parseDocument_heading :
    ∃ blank, (parseDocument Plain.grammar names (headingLine level t ++ [Bytes.newline])).1.children =
      [.mk { kind := .heading level, lines := spans level t, blankBefore := blank }
        (if (kept t).isEmpty then [] else
          (Inline.read ⟨Plain.grammar, headingLine level t ++ [Bytes.newline],
            textLines (headingLine level t ++ [Bytes.newline]) (spans level t), [], .document, true⟩ ⟨names, [], []⟩).1)] := by
  obtain ⟨blank, hread⟩ := readBlocks_heading hlow hhigh hn hhead hlast names
  refine ⟨blank, ?_⟩
  have hempty : (spans level t).isEmpty = (kept t).isEmpty := by
    rw [spans]
    split <;> simp_all
  have htexts : ∃ m, readTexts ⟨Plain.grammar, headingLine level t ++ [Bytes.newline], []⟩ .document true ⟨names, [], []⟩
      [.mk { kind := .heading level, lines := spans level t, blankBefore := blank } []] =
        ([.mk { kind := .heading level, lines := spans level t, blankBefore := blank }
          (if (kept t).isEmpty then [] else
            (Inline.read ⟨Plain.grammar, headingLine level t ++ [Bytes.newline],
              textLines (headingLine level t ++ [Bytes.newline]) (spans level t), [], .document, true⟩
                ⟨names, [], []⟩).1)], m) := by
    simp only [readTexts, readText, Kind.isVerbatim, hempty, Bool.false_or]
    split <;> exact ⟨_, rfl⟩
  obtain ⟨m, htexts⟩ := htexts
  have hfill : Footnotes.fillNodes [] [.mk { kind := .heading level, lines := spans level t, blankBefore := blank } []] =
      [.mk { kind := .heading level, lines := spans level t, blankBefore := blank } []] := by
    simp only [Footnotes.fillNodes, Footnotes.fillNode]
  have hraw : readDocument Plain.grammar names (headingLine level t ++ [Bytes.newline]) =
      ⟨.leaf .document [.mk { kind := .heading level, lines := spans level t, blankBefore := blank }
        (if (kept t).isEmpty then [] else
          (Inline.read ⟨Plain.grammar, headingLine level t ++ [Bytes.newline],
            textLines (headingLine level t ++ [Bytes.newline]) (spans level t), [], .document, true⟩
              ⟨names, [], []⟩).1)], [], m, [], none, none⟩ := by
    simp only [readDocument, hread, hfill, List.map_nil, htexts]
  rw [parseDocument, hraw]
  rfl

/-- Where nothing closes the heading, legible marks on its line are read as what they are. -/
theorem parseDocument_heading_legible {ms : List Mark} (hms : Mark.written ms = t) (hkept : kept t = t)
    (hl : ms ≠ [] → Legible [] (lead level) ms) :
    ∃ info ns, (parseDocument Plain.grammar names (headingLine level t ++ [Bytes.newline])).1.children = [.mk info ns] ∧
      info.kind = .heading level ∧
      Node.outlines (headingLine level t ++ [Bytes.newline]) ns = ms.map Mark.token := by
  obtain ⟨blank, hread⟩ := parseDocument_heading hlow hhigh hn hhead hlast names
  refine ⟨_, _, hread, rfl, ?_⟩
  rw [hkept]
  cases ms with
  | nil =>
    subst hms
    rfl
  | cons m ms =>
    have hne : t ≠ [] := by
      rintro rfl
      exact absurd ((hl (List.cons_ne_nil m ms)).eq_nil hms).1 (List.cons_ne_nil m ms)
    have hempty : t.isEmpty = false := by simpa using hne
    have hspans : spans level t = [⟨level + 1, level + 1 + t.length, 0⟩] := by
      rw [spans, hkept, hempty, if_neg Bool.false_ne_true]
    have hcovers : Span.Covers (lead level ++ t ++ [Bytes.newline]) ⟨level + 1, level + 1 + t.length, 0⟩ t := by
      refine ⟨rfl, rfl, ?_⟩
      rw [List.append_assoc, ← length_lead, List.drop_left]
      exact List.prefix_append _ _
    have htake : (lead level ++ t ++ [Bytes.newline]).take (level + 1) = lead level := by
      rw [List.append_assoc, ← length_lead, List.take_left]
    have hlines : textLines (lead level ++ t ++ [Bytes.newline]) (spans level t) =
        [⟨⟨level + 1, level + 1 + t.length, 0⟩, t, (lead level).reverse⟩] := by
      rw [hspans, textLines, List.map_singleton, hcovers.slice_eq, htake]
    have hspace : ∀ b ∈ (lead level).getLast?, b = byte ' ' := by
      rw [lead, List.getLast?_concat]
      rintro _ ⟨⟩
      rfl
    have hfits : lead level ++ (t ++ []) <+: lead level ++ t ++ [Bytes.newline] :=
      ⟨[Bytes.newline], by rw [List.append_nil]⟩
    have hwritten : Mark.written (m :: ms) = t ++ [] := by rw [hms, List.append_nil]
    rw [hempty, if_neg Bool.false_ne_true, headingLine_eq hne]
    exact (@Inline.read_legible (lead level ++ t ++ [Bytes.newline])
      ⟨Plain.grammar, _, textLines (lead level ++ t ++ [Bytes.newline]) (spans level t), [], .document, true⟩ ⟨names, [], []⟩
      (lead level) (m :: ms) ⟨⟨level + 1, level + 1 + t.length, 0⟩, t, (lead level).reverse⟩ [] rfl rfl rfl hlines hspace
      length_lead.symm rfl rfl hne (.last hn) hfits hwritten (hl (List.cons_ne_nil m ms))).1

end

end MarkdownTidy
