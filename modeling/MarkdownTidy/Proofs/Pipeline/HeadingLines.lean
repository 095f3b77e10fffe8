import MarkdownTidy.Proofs.Document.HeadingText
import MarkdownTidy.Proofs.Document.TreeKinds
import MarkdownTidy.Proofs.Pipeline.Paragraphs
import MarkdownTidy.Proofs.Writer.Grid

/-! The line that a heading is written on, read again. -/

namespace MarkdownTidy

/-- A line break as the space it becomes in a heading. -/
def Mark.flat : Mark → Mark
  | .soft => .byte (MarkdownTidy.byte ' ')
  | m => m

def Token.flat : Token → Token
  | .soft | .hard => .byte (MarkdownTidy.byte ' ')
  | t => t

lemma Mark.map_token_flat {ms : List Mark} (h : .hard ∉ ms) :
    (ms.map flat).map token = (ms.map token).map Token.flat := by
  rw [List.map_map, List.map_map]
  refine List.map_congr_left fun m hm => ?_
  cases m with
  | hard => exact absurd hm h
  | byte | soft | opening | closing => rfl

/-- What a heading of text and emphasis has to be like once it is written on one line: there is no white space around
its text and no backslash of a line break in it, no number signs close it, and each marker is a delimiter run of its own
that can open or close emphasis where it should. -/
structure Writer.UnmistakableHeading (style : Style) (source : Bytes) (level : Nat) (ns : List Node) : Prop where
  firm : Mark.Firm [] (marksAmong style source (.heading level) [] ns)
  flat : onOneLine (Mark.written (marksAmong style source (.heading level) [] ns)) =
    Mark.written ((marksAmong style source (.heading level) [] ns).map Mark.flat)
  unclosed : ¬ Heading.Closed (Mark.written ((marksAmong style source (.heading level) [] ns).map Mark.flat))
  legible : marksAmong style source (.heading level) [] ns ≠ [] →
    Legible [] (Heading.lead level) ((marksAmong style source (.heading level) [] ns).map Mark.flat)

namespace Writer

variable {style : Style} {source : Bytes} {ns : List Node} {level : Nat}

lemma exists_headingLine {env : Environment} (hr : env.registry = []) (at_ : Setting) {info : Info}
    (hk : info.kind = .heading level) (ns : List Node) :
    ∃ s, joinInlines (writeNodes env (.heading level) [] ns) = .ok s ∧
      (writeNode env at_ (.mk info ns)).own = .ok (Plain.Block.headingLine level (onOneLine s)) := by
  obtain ⟨s, hs⟩ := exists_joinInlines (whole_writeNodes hr (.heading level) [] ns)
  refine ⟨s, hs, ?_⟩
  rw [own_writeNode (by rw [hr]; rfl)]
  simp only [usual, Node.kind, Node.info, Node.children, hk, hs, Except.map, Plain.Block.headingLine]
  split
  · rw [List.append_nil]
  · rw [List.append_assoc]
    rfl

lemma UnmistakableHeading.hard_notMem (h : UnmistakableHeading style source level ns) :
    Mark.hard ∉ marksAmong style source (.heading level) [] ns := by
  intro hmem
  refine newline_notMem_onOneLine (Mark.written (marksAmong style source (.heading level) [] ns)) ?_
  rw [h.flat]
  exact List.mem_flatMap.mpr ⟨.hard, List.mem_map.mpr ⟨.hard, hmem, rfl⟩, by decide⟩

end Writer

namespace Pipeline

open Plain.Block (headingLine)

/-- The line that a heading is written on is read as one heading of the same level. It keeps its text unless number
signs close it; then text and emphasis are read as they were, with spaces for line breaks, unless a marker can be
mistaken. -/
theorem parse_headingLine {style : Style} {p : Pipeline} (hp : new style [] = .ok p) (m n : MarkdownAttributes)
    {source : Bytes} {info : Info} {ns : List Node} {level : Nat}
    (h : (Node.mk info ns).Within (p.parse m source).1) (hk : info.kind = .heading level) (at_ : Writer.Setting) :
    let env : Writer.Environment := ⟨style, [], source, Writer.labelsIn (p.parse m source).1⟩
    ∃ s info' ns',
      let text := Writer.onOneLine s
      let out := headingLine level text ++ [Bytes.newline]
      Writer.joinInlines (Writer.writeNodes env (.heading level) [] ns) = .ok s ∧
        (Writer.writeNode env at_ (.mk info ns)).own = .ok (headingLine level text) ∧
        (p.parse n out).1.children = [.mk info' ns'] ∧ info'.kind = .heading level ∧
        (spansValue out info'.lines ≠ text ↔ Heading.Closed text) ∧
        (Node.areProse ns = true → Writer.UnmistakableHeading style source level ns →
          Node.outlines out ns' = (Node.outlines source ns).map Token.flat) := by
  intro env
  obtain ⟨hstyle, -⟩ := visitors_new hp
  obtain rfl := eq_bare_of_new hp
  have hlevel := ((parseDocument_read _ m source).within h).own
  rw [Node.kind, Node.info, hk] at hlevel
  obtain ⟨hlow, hhigh⟩ := hlevel
  obtain ⟨s, hs, hown⟩ := @Writer.exists_headingLine level env rfl at_ info hk ns
  have hn := Writer.newline_notMem_onOneLine s
  have hhead : ∀ b ∈ (Writer.onOneLine s).head?, Bytes.isSpace b = false := fun b hb => Text.isSpace_head?_trimSpace hb
  have hlast : ∀ b ∈ (Writer.onOneLine s).getLast?, Bytes.isSpace b = false := fun b hb => Text.isSpace_getLast?_trimSpace hb
  obtain ⟨blank, hread⟩ := parseDocument_heading hlow hhigh hn hhead hlast n
  refine ⟨s, _, _, hs, hown, hread, rfl, ?_, fun hprose hclear => ?_⟩
  · rw [Heading.value_spans]
    exact Heading.kept_ne_iff
  · have hwritten := @Writer.joinInlines_prose env rfl (.heading level) [] [] ns hprose hclear.firm
    obtain rfl := Except.ok.inj (hs.symm.trans hwritten)
    have hkept := not_not.mp (mt Heading.kept_ne_iff.mp hclear.unclosed)
    rw [← hclear.flat] at hkept
    obtain ⟨info', ns', hread', -, houtlines⟩ := parseDocument_heading_legible hlow hhigh hn hhead hlast n hclear.flat.symm
      hkept fun hne => hclear.legible (by simpa using hne)
    rw [hread] at hread'
    obtain ⟨-, rfl⟩ := Node.mk.inj (List.cons.inj hread').1
    rw [houtlines, Mark.map_token_flat hclear.hard_notMem, Writer.map_token_marksAmong hstyle _ _ _ hprose]

/-- A heading of two underlined lines with emphasis in it. -/
theorem parse_headingLine_underlined :
    let source := utf8 "one *two*\nthree\n===\n"
    let out := utf8 "# one _two_ three\n"
    ∃ p info ns info' ns', new {} [] = .ok p ∧ (p.parse .initial source).1.children = [.mk info ns] ∧
      info.kind = .heading 1 ∧ Node.areProse ns = true ∧ Writer.UnmistakableHeading {} source 1 ns ∧
      (p.parse .initial out).1.children = [.mk info' ns'] ∧ info'.kind = .heading 1 ∧
      Node.outlines out ns' = (Node.outlines source ns).map Token.flat := by
  intro source out
  have hkinds : ((bare {}).parse .initial source).1.children.map Node.kind = [.heading 1] := by decide +kernel
  obtain ⟨⟨info, ns⟩, h, hk⟩ := List.map_eq_singleton_iff.mp hkinds
  have hprose : Node.areProse ns = true := by
    rw [Node.eq_children h]
    decide +kernel
  have hclear : Writer.UnmistakableHeading {} source 1 ns := by
    rw [Node.eq_children h]
    exact ⟨by decide +kernel, by decide +kernel, by decide +kernel, fun _ => by decide +kernel⟩
  have hwithin : (Node.mk info ns).Within ((bare {}).parse .initial source).1 :=
    Node.within_of_mem_children (by rw [h]; exact List.mem_cons_self)
  obtain ⟨s, info', ns', hs, hown, hread, hkind, -, houtlines⟩ :=
    parse_headingLine (p := bare {}) (show new {} [] = _ from rfl) .initial .initial hwithin hk ⟨.document, [], none⟩
  have htext : (Writer.joinInlines (Writer.writeNodes
      ⟨{}, [], source, Writer.labelsIn ((bare {}).parse .initial source).1⟩ (.heading 1) [] ns)).toOption =
        some (utf8 "one _two_\nthree") := by
    rw [Node.eq_children h]
    decide +kernel
  rw [hs] at htext
  obtain rfl := Option.some.inj htext
  exact ⟨bare {}, info, ns, info', ns', rfl, h, hk, hprose, hclear, hread, hkind, houtlines hprose hclear⟩

/-- Number signs that are text of an underlined heading close the heading on one line. -/
theorem parse_headingLine_closed :
    let source := utf8 "foo #\n===\n"
    let out := utf8 "# foo #\n"
    ∃ p info ns, new {} [] = .ok p ∧ (p.parse .initial source).1.children = [.mk info ns] ∧ info.kind = .heading 1 ∧
      Node.outlines source ns = (utf8 "foo #").map .byte ∧ (p.format .initial source).1.toOption = some out ∧
      ∀ info' ns', (p.parse .initial out).1.children = [.mk info' ns'] →
        info'.kind = .heading 1 ∧ Node.outlines out ns' = (utf8 "foo").map .byte := by
  intro source out
  have hkinds : ((bare {}).parse .initial source).1.children.map Node.kind = [.heading 1] := by decide +kernel
  obtain ⟨⟨info, ns⟩, h, hk⟩ := List.map_eq_singleton_iff.mp hkinds
  have hkinds' : ((bare {}).parse .initial out).1.children.map Node.kind = [.heading 1] := by decide +kernel
  refine ⟨bare {}, info, ns, rfl, h, hk, ?_, by decide +kernel, fun info' ns' h' => ⟨?_, ?_⟩⟩
  · rw [Node.eq_children h]
    decide +kernel
  · rw [h'] at hkinds'
    exact (List.cons.inj hkinds').1
  · rw [Node.eq_children h']
    decide +kernel

end Pipeline

end MarkdownTidy
