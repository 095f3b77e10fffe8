import MarkdownTidy.Config
import MarkdownTidy.Yaml.Decode

/-! Reading a configuration file. What a file does not set keeps its default, and unknown keys are
refused. -/

namespace MarkdownTidy.Config

inductive ReadError where
  | yaml (p : Yaml.Problem)
  | mismatches (ms : List Yaml.Mismatch)
  deriving DecidableEq, Repr

def ReadError.message : ReadError → Bytes
  | yaml p => p.message .construct
  | mismatches ms => Yaml.Mismatch.report ms

open Yaml Yaml.Decode

def shortcodeFields : List (RecordField ShortcodeSettings) :=
  [.of "start_block" text fun s x => { s with startBlock := x },
    .of "end_block" text fun s x => { s with endBlock := x },
    .of "inline_mode" bool fun s x => { s with inlineMode := x },
    .of "markdown_attributes" texts fun s x => { s with markdownAttributes := x },
    .of "spread_markdown_attributes" bool fun s x => { s with spreadMarkdownAttributes := x }]

def styleFields : List (RecordField Style) :=
  [.of "bullet" text fun s x => { s with bullet := x },
    .of "emphasis" text fun s x => { s with emphasis := x },
    .of "strong" text fun s x => { s with strong := x },
    .of "thematic_break" text fun s x => { s with thematicBreak := x },
    .of "increment_ordered" bool fun s x => { s with incrementOrdered := x }]

def previewFields : List (RecordField PreviewSettings) :=
  [.of "style" text fun s x => { s with style := x },
    .of "line_numbers" bool fun s x => { s with lineNumbers := x },
    .of "toc" bool fun s x => { s with toc := x }]

def sectionField {α : Type} (fuel : Nat) (name type : String) (fields : List (RecordField α))
    (part : Config → α) (put : Config → α → Config) : RecordField Config :=
  ⟨utf8 name, fun scope n c => do
    let (a, _) ← record (utf8 type) fields fuel scope none n (part c)
    pure (put c a)⟩

def fields (fuel : Nat) : List (RecordField Config) :=
  [.of "disable_formatter" bool fun c x => { c with disableFormatter := x },
    sectionField fuel "shortcodes" "metadata.ShortcodeConfig" shortcodeFields
      (·.shortcodes) fun c x => { c with shortcodes := x },
    sectionField fuel "style" "metadata.StyleConfig" styleFields
      (·.style) fun c x => { c with style := x },
    sectionField fuel "preview" "metadata.PreviewConfig" previewFields
      (·.preview) fun c x => { c with preview := x }]

/-- The configuration a file holds. -/
def read (data : Bytes) : Except ReadError Config :=
  match Yaml.read .commented data with
  | .error p => .error (.yaml p)
  | .ok none => .ok {}
  | .ok (some doc) =>
    let fuel := data.length + 8
    let scope : Scope := { anchored := doc.anchored }
    match record (utf8 "metadata.Config") (fields fuel) fuel scope none doc.root {} [] with
    | .error f => .error (.yaml (.ofValue f))
    | .ok ((c, _), []) => .ok c
    | .ok (_, ms) => .error (.mismatches ms.reverse)

end MarkdownTidy.Config
