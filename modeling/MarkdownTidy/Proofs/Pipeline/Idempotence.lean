import MarkdownTidy.Pipeline.Plugin
import MarkdownTidy.Proofs.Plain.Writing

/-! Formatting a text that was formatted before. -/

namespace MarkdownTidy.Pipeline

lemma eq_bare_of_new {style : Style} {p : Pipeline} (h : new style [] = .ok p) : p = bare style := by
  rw [new] at h
  split at h
  · cases h
  · exact (Except.ok.inj h).symm

lemma format_bare {style : Style} {source out : Bytes} {m : MarkdownAttributes}
    (h : Writer.write style [] source ((bare style).parse m source).1 = .ok out) :
    ((bare style).format m source).1 = .ok out := by
  rw [format_eq (Plain.shortcode_notMem style)]
  exact congrArg (Except.mapError PipelineError.visitor) h

end MarkdownTidy.Pipeline
