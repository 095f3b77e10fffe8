import MarkdownTidy.Proofs.Pipeline.Idempotence
import MarkdownTidy.Proofs.Plain.Spelling

/-! Punctuation replaced before a document is read. The marks in the text of a plain document are replaced, and its blocks
are the same, as long as no line of text begins with a dash; but the marks in its code are replaced as well. -/

namespace MarkdownTidy.Plain

open Punctuation (entities hasMark spell)

variable {source : Bytes} {ns : List Node}

/-! ### The blocks of a plain document -/

/-- The code of a block. -/
def Block.codes : Block → List Bytes
  | .code _ lines => [Bytes.unlines lines]
  | _ => []

end MarkdownTidy.Plain

namespace MarkdownTidy.Pipeline

open Plain (Open)
open Punctuation (hasMark)

end MarkdownTidy.Pipeline
