import MarkdownTidy.Proofs.Document.BlockNames
import MarkdownTidy.Proofs.Document.TopLevel
import MarkdownTidy.Proofs.Plain.Inline
import MarkdownTidy.Proofs.Plain.Reading

/-! A plain document is written as the lines of its outline. -/

namespace MarkdownTidy.Plain

variable {source : Bytes}

/-! ### The tree -/

/-- A block of the tree with its text read. -/
inductive Tells (source : Bytes) : Node → Block → Prop
  | paragraph {info : Info} {ns : List Node} {ps : List Bytes} (hk : info.kind = .paragraph)
      (h : Texts source ns (Bytes.join [Bytes.newline] ps)) : Tells source (.mk info ns) (.paragraph ps)
  | heading {info : Info} {level : Nat} {ns : List Node} {ps : List Bytes} (hk : info.kind = .heading level)
      (h : Texts source ns (Bytes.join [Bytes.newline] ps)) (hp : ∀ p ∈ ps, Phrase p) :
      Tells source (.mk info ns) (.heading level (Bytes.join [byte ' '] ps))
  | indented {info : Info} {ls : List Bytes} (hk : info.kind = .codeBlock)
      (h : CodeLines source info.lines ls) : Tells source (.mk info []) (.code [] ls)
  | fenced {info : Info} {label : Option Span} {i : Bytes} {ls : List Bytes}
      (hk : info.kind = .fencedCode label) (hi : LabelSpan source label i)
      (h : CodeLines source info.lines ls) : Tells source (.mk info []) (.code i ls)

variable {t : TextScope} {m : InlineMemory} (hg : t.grammar = grammar) (hs : t.source = source)
  (hm : m.footnotes = [])
include hg hs hm

omit hg hs hm

section

variable {style : Style} {labels : List (Nat × Bytes)} (parent : Kind)

end

structure Edged (t : Bytes) : Prop where
  first : Text.startsBlank t = false
  last : ∀ r, (Utf8.codePoints t).getLast? = some r → Text.isBlank r.code = false

lemma Edged.trimSpace_eq {t : Bytes} (h : Edged t) : Text.trimSpace t = t :=
  Text.trimSpace_eq_self h.first h.last

lemma codePoints_ne_nil {t : Bytes} (h : t ≠ []) : Utf8.codePoints t ≠ [] := by
  intro hc
  have hb := Utf8.flatMap_bytes_codePoints t
  rw [hc] at hb
  exact h hb.symm

section

variable {style : Style} {labels : List (Nat × Bytes)} {at_ : Writer.Setting}

def Block.text (b : Block) : Bytes := Bytes.join [Bytes.newline] b.lines

end

end MarkdownTidy.Plain
