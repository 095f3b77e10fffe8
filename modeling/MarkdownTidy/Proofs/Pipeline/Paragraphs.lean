import MarkdownTidy.Proofs.Document.MarginParagraph
import MarkdownTidy.Proofs.Document.ParagraphLines
import MarkdownTidy.Proofs.Pipeline.Idempotence
import MarkdownTidy.Proofs.Pipeline.Registration
import MarkdownTidy.Proofs.Writer.Containers
import MarkdownTidy.Proofs.Writer.Emphasis
import MarkdownTidy.Proofs.Writer.Paragraph

/-! Formatting a document that is a single paragraph, first with any content and then of text and emphasis. -/

namespace MarkdownTidy.Pipeline

/-- A single paragraph is always formatted. What is written is read as a single paragraph when its lines stay
one, that is when none of them begins a block now that it stands at the margin; otherwise it is not, unless a line
begins a footnote. -/
theorem parse_format_paragraph {style : Style} {p : Pipeline} (hp : new style [] = .ok p)
    (m n : MarkdownAttributes) {source : Bytes}
    (h : (p.parse m source).1.children.map Node.kind = [.paragraph]) :
    ∃ ls, (p.format m source).1 = .ok (Bytes.unlines ls) ∧ (∀ l ∈ ls, Bytes.newline ∉ l) ∧
      (StaysParagraph ls → (p.parse n (Bytes.unlines ls)).1.children.map Node.kind = [.paragraph]) ∧
      ((p.parse n (Bytes.unlines ls)).1.children.map Node.kind = [.paragraph] →
        StaysParagraph ls ∨ ∃ l ∈ ls, beginsFootnote l = true) := by
  obtain rfl := eq_bare_of_new hp
  obtain ⟨text, hwrite⟩ := Writer.write_paragraph style source (kind_parseDocument _ m source) h
  have hformat : ((bare style).format m source).1 =
      .ok (if (Text.trimSpace text).isEmpty then [] else Text.trimSpace text ++ [Bytes.newline]) :=
    format_bare hwrite
  rw [hformat]
  by_cases hempty : Text.trimSpace text = []
  · refine ⟨[], by simp [hempty], by simp, parseDocument_lines (by simp) (by simp) (by simp) n⟩
  · obtain ⟨ls, hls, hl, hhead, hlast⟩ := Writer.exists_lines_trimSpace hempty
    refine ⟨ls, ?_, hl, parseDocument_lines hl hhead hlast n⟩
    rw [hls, if_neg (by simpa using hempty)]

theorem parse_format_paragraph_emphasis :
    ∃ p, new {} [] = .ok p ∧
      (p.parse .initial (utf8 "*one*  \n    two [a](b)\n")).1.children.map Node.kind = [.paragraph] ∧
      (p.format .initial (utf8 "*one*  \n    two [a](b)\n")).1 = .ok (utf8 "_one_\\\ntwo [a](b)\n") ∧
      (p.parse .initial (utf8 "_one_\\\ntwo [a](b)\n")).1.children.map Node.kind = [.paragraph] := by
  have hparse : ((bare {}).parse .initial (utf8 "*one*  \n    two [a](b)\n")).1.children.map Node.kind =
      [.paragraph] := by decide +kernel
  have hwritten : ((bare {}).format .initial (utf8 "*one*  \n    two [a](b)\n")).1.toOption =
      some (Bytes.unlines [utf8 "_one_\\", utf8 "two [a](b)"]) := by decide +kernel
  have hstays : StaysParagraph [utf8 "_one_\\", utf8 "two [a](b)"] :=
    ⟨by decide +kernel, by decide +kernel, by decide +kernel⟩
  obtain ⟨ls, hformat, hl, hread, -⟩ :=
    parse_format_paragraph (p := bare {}) (show new {} [] = _ from rfl) .initial .initial hparse
  rw [hformat] at hwritten
  obtain rfl := Bytes.unlines_injective hl (by decide) (Option.some.inj hwritten)
  exact ⟨bare {}, rfl, hparse, hformat, hread hstays⟩

/-- A row of dashes that is text because it is indented underlines a heading once the indentation is gone. -/
theorem parse_format_paragraph_underlined :
    ∃ p, new {} [] = .ok p ∧
      (p.parse .initial (utf8 "Foo\n    ---\n")).1.children.map Node.kind = [.paragraph] ∧
      (p.format .initial (utf8 "Foo\n    ---\n")).1.toOption = some (utf8 "Foo\n---\n") ∧
      (p.parse .initial (utf8 "Foo\n---\n")).1.children.map Node.kind = [.heading 2] :=
  ⟨bare {}, rfl, by decide +kernel, by decide +kernel, by decide +kernel⟩

end MarkdownTidy.Pipeline

namespace MarkdownTidy

lemma Node.eq_children {info : Info} {ns ms : List Node} (h : ms = [.mk info ns]) : ns = ms.flatMap Node.children := by
  rw [h, List.flatMap_singleton]
  rfl

/-- What a paragraph of text and emphasis has to be like once it is written: there is no white space around it, its lines
begin no other block, and each marker is a delimiter run of its own that can open or close emphasis where it should. -/
structure Writer.Unmistakable (style : Style) (source : Bytes) (ns : List Node) : Prop where
  ne_nil : Mark.written (marksAmong style source .paragraph [] ns) ≠ []
  trimmed : Text.trimSpace (Mark.written (marksAmong style source .paragraph [] ns)) =
    Mark.written (marksAmong style source .paragraph [] ns)
  stays : StaysParagraph (Bytes.split Bytes.newline (Mark.written (marksAmong style source .paragraph [] ns)))
  legible : Legible [] [] (marksAmong style source .paragraph [] ns)

namespace Writer

variable {style : Style} {source : Bytes} {info : Info} {ns : List Node}

lemma write_unmistakable {doc : Node} (hk : doc.kind = .document) (hdoc : doc.children = [.mk info ns])
    (hp : info.kind = .paragraph) (hprose : Node.areProse ns = true) (h : Unmistakable style source ns) :
    write style [] source doc = .ok (Mark.written (marksAmong style source .paragraph [] ns) ++ [Bytes.newline]) := by
  have hlast : ∀ b ∈ (Mark.written (marksAmong style source .paragraph [] ns)).getLast?, b ≠ Bytes.newline := by
    rintro b hb rfl
    have hspace := h.legible.last Bytes.newline hb
    cases hspace
  refine write_singleton rfl hk hdoc hlast h.ne_nil ?_
  have hinlines := @joinInlines_prose ⟨style, [], source, labelsIn doc⟩ rfl .paragraph [] [] ns hprose h.legible.firm
  rw [own_writeNode rfl]
  simp only [usual, Node.kind, Node.info, Node.children, hp, hinlines, Except.map, h.trimmed]

end Writer

namespace Pipeline

/-- A paragraph of text and emphasis, nested and adjacent in whatever way, is written as a paragraph that is read as
the same text with the same emphasis around it, unless a marker or a line can be mistaken. -/
theorem parse_format_emphasis {style : Style} {p : Pipeline} (hp : new style [] = .ok p) (m n : MarkdownAttributes)
    {source : Bytes} {info : Info} {ns : List Node} (h : (p.parse m source).1.children = [.mk info ns])
    (hk : info.kind = .paragraph) (hprose : Node.areProse ns = true) (hclear : Writer.Unmistakable style source ns) :
    ∃ out info' ns', out = Mark.written (Writer.marksAmong style source .paragraph [] ns) ++ [Bytes.newline] ∧
      (p.format m source).1 = .ok out ∧ (p.parse n out).1.children = [.mk info' ns'] ∧ info'.kind = .paragraph ∧
      Node.outlines out ns' = Node.outlines source ns := by
  obtain ⟨hstyle, -⟩ := visitors_new hp
  obtain rfl := eq_bare_of_new hp
  have hwrite := Writer.write_unmistakable (kind_parseDocument _ m source) h hk hprose hclear
  have hformat : ((bare style).format m source).1 =
      .ok (Mark.written (Writer.marksAmong style source .paragraph [] ns) ++ [Bytes.newline]) :=
    format_bare hwrite
  have hhead : ∀ b ∈ (Mark.written (Writer.marksAmong style source .paragraph [] ns)).head?, Bytes.isSpace b = false := by
    rw [← hclear.trimmed]
    exact fun b hb => Text.isSpace_head?_trimSpace hb
  obtain ⟨info', ns', hchildren, hkind, houtlines⟩ := parseDocument_legible hclear.legible hclear.ne_nil hhead hclear.stays n
  refine ⟨_, info', ns', rfl, hformat, hchildren, hkind, ?_⟩
  rw [houtlines, Writer.map_token_marksAmong hstyle _ _ _ hprose]

theorem parse_format_emphasis_nested :
    ∃ p info ns out info' ns', new {} [] = .ok p ∧
      (p.parse .initial (utf8 "*a **b***\nc*d*e\n")).1.children = [.mk info ns] ∧ info.kind = .paragraph ∧
      Node.areProse ns = true ∧ Writer.Unmistakable {} (utf8 "*a **b***\nc*d*e\n") ns ∧
      (p.format .initial (utf8 "*a **b***\nc*d*e\n")).1 = .ok out ∧ (p.parse .initial out).1.children = [.mk info' ns'] ∧
      info'.kind = .paragraph ∧ Node.outlines out ns' = Node.outlines (utf8 "*a **b***\nc*d*e\n") ns := by
  have hkinds : ((bare {}).parse .initial (utf8 "*a **b***\nc*d*e\n")).1.children.map Node.kind = [.paragraph] := by
    decide +kernel
  obtain ⟨⟨info, ns⟩, h, hk⟩ := List.map_eq_singleton_iff.mp hkinds
  have hprose : Node.areProse ns = true := by
    rw [Node.eq_children h]
    decide +kernel
  have hclear : Writer.Unmistakable {} (utf8 "*a **b***\nc*d*e\n") ns := by
    rw [Node.eq_children h]
    exact ⟨by decide +kernel, by decide +kernel, ⟨by decide +kernel, by decide +kernel, by decide +kernel⟩,
      by decide +kernel⟩
  obtain ⟨out, info', ns', -, hformat, hchildren, hkind, houtlines⟩ :=
    parse_format_emphasis (p := bare {}) (show new {} [] = _ from rfl) .initial .initial h hk hprose hclear
  exact ⟨bare {}, info, ns, out, info', ns', rfl, h, hk, hprose, hclear, hformat, hchildren, hkind, houtlines⟩

/-- Two emphases that follow each other with the same marker between them become one. -/
theorem parse_format_emphasis_adjacent :
    ∃ p info ns, new {} [] = .ok p ∧ (p.parse .initial (utf8 "*a*_b_\n")).1.children = [.mk info ns] ∧
      info.kind = .paragraph ∧ Node.areProse ns = true ∧
      Node.outlines (utf8 "*a*_b_\n") ns = [.enter 1, .byte (byte 'a'), .leave, .enter 1, .byte (byte 'b'), .leave] ∧
      (p.format .initial (utf8 "*a*_b_\n")).1.toOption = some (utf8 "_a__b_\n") ∧
      ∀ info' ns', (p.parse .initial (utf8 "_a__b_\n")).1.children = [.mk info' ns'] →
        Node.outlines (utf8 "_a__b_\n") ns' =
          [.enter 1, .byte (byte 'a'), .byte (byte '_'), .byte (byte '_'), .byte (byte 'b'), .leave] := by
  have hkinds : ((bare {}).parse .initial (utf8 "*a*_b_\n")).1.children.map Node.kind = [.paragraph] := by decide +kernel
  obtain ⟨⟨info, ns⟩, h, hk⟩ := List.map_eq_singleton_iff.mp hkinds
  refine ⟨bare {}, info, ns, rfl, h, hk, ?_, ?_, by decide +kernel, fun info' ns' h' => ?_⟩
  · rw [Node.eq_children h]
    decide +kernel
  · rw [Node.eq_children h]
    decide +kernel
  · rw [Node.eq_children h']
    decide +kernel

end Pipeline

end MarkdownTidy
