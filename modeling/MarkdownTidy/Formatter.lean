import MarkdownTidy.Config
import MarkdownTidy.FrontMatter.Split
import MarkdownTidy.Pipeline.Plugin
import MarkdownTidy.Punctuation

/-! Formatting whole documents: front matter, punctuation and the body, with shortcodes recognized as
configured. -/

namespace MarkdownTidy

/-- Lines of a document, counted from one, both ends included. -/
structure LineRange where
  first : Int
  last : Int
  deriving DecidableEq, Repr, Inhabited

inductive FormatError where
  | textPipeline (e : PipelineError)
  | documentPipeline (e : PipelineError)
  | pipeline (e : PipelineError)
  | canceled
  | range (r : LineRange) (lines : Nat)
  deriving DecidableEq, Repr

def FormatError.message : FormatError → Bytes
  | textPipeline e => utf8 "text pipeline: " ++ e.message
  | documentPipeline e => utf8 "document pipeline: " ++ e.message
  | pipeline e => e.message
  | canceled => utf8 "context canceled"
  | range r n =>
    utf8 "invalid line range: " ++ decimalInt r.first ++ utf8 ":" ++ decimalInt r.last ++
      utf8 " in " ++ decimal n ++ utf8 " lines"

def FormatError.overrun? : FormatError → Option Overrun
  | pipeline e => e.overrun?
  | _ => none

abbrev Patience := Option Nat

def Patience.spend : Patience → Option Patience
  | none => some none
  | some 0 => none
  | some (n + 1) => some (some n)

/-- What came of formatting: the text or an error, the messages logged, and the shared names
afterwards. -/
structure Formatted where
  result : Except FormatError Bytes
  log : List Bytes
  names : MarkdownAttributes

structure Formatter where
  config : Config
  text : Pipeline
  document : Pipeline

namespace Formatter

def tidyWith (p : Pipeline) (s : Bytes) : Bytes :=
  match (p.format .initial s).1 with
  | .ok out => Text.trimSpace out
  | .error _ => Text.trimSpace s

/-- The formatter of a configuration, and the shared names afterwards. -/
def new (config : Config) (names : MarkdownAttributes) :
    Except FormatError Formatter × MarkdownAttributes :=
  match Pipeline.new config.style [.alerts, .attributeList] with
  | .error e => (.error (.textPipeline e), names)
  | .ok text =>
    let (own, names) := config.shortcodes.attributeSet names
    let reader := Shortcode.Reader.new config.shortcodes.startBlock config.shortcodes.endBlock
      (tidyWith text)
    let shortcodes := Plugin.shortcodes ⟨reader, own⟩ config.shortcodes.inlineMode
    match Pipeline.new config.style [shortcodes, .alerts, .attributeList] with
    | .error e => (.error (.documentPipeline e), names)
    | .ok document => (.ok ⟨config, text, document⟩, names)

def tidyText (f : Formatter) (s : Bytes) : Bytes := tidyWith f.text s

def formatBody (f : Formatter) (names : MarkdownAttributes) (src : Bytes) :
    Except FormatError Bytes × MarkdownAttributes :=
  let (out, names) := f.document.format names (Punctuation.escape src)
  (out.mapError .pipeline, names)

theorem formatBody_fst (f : Formatter) (names : MarkdownAttributes) (src : Bytes) :
    (f.formatBody names src).1 = (f.document.format names (Punctuation.escape src)).1.mapError .pipeline := rfl

def formatFrontMatter (src : Bytes) : Bytes × Bytes × List Bytes :=
  match FrontMatter.split src with
  | .absent => ([], src, [])
  | .unreadable problem => ([], src, [utf8 "Ignoring front matter: " ++ problem.message])
  | .empty body => ([], body, [])
  | .present root body => (utf8 "---\n" ++ FrontMatter.render root ++ utf8 "---\n", body, [])

/-- A document in canonical form; unchanged when the formatter is disabled. -/
def format (f : Formatter) (names : MarkdownAttributes) (patience : Patience) (src : Bytes) :
    Formatted :=
  if f.config.disableFormatter then ⟨.ok src, [], names⟩
  else
    match patience.spend with
    | none => ⟨.error .canceled, [], names⟩
    | some patience =>
      let (head, body, log) := formatFrontMatter src
      match patience.spend with
      | none => ⟨.error .canceled, log, names⟩
      | some _ =>
        let (out, names) := f.formatBody names body
        let out := out.map fun body =>
          if head.isEmpty || body.isEmpty then head ++ body else head ++ [Bytes.newline] ++ body
        ⟨out, log, names⟩

/-- Formats some lines of a document as a document of their own and puts them back. -/
def formatRange (f : Formatter) (names : MarkdownAttributes) (patience : Patience) (src : Bytes)
    (r : LineRange) : Formatted :=
  let lines := Bytes.lines src
  if r.first < 1 || r.last < r.first || r.last > lines.length then
    ⟨.error (.range r lines.length), [], names⟩
  else if f.config.disableFormatter then ⟨.ok src, [], names⟩
  else
    match patience.spend with
    | none => ⟨.error .canceled, [], names⟩
    | some _ =>
      let first := r.first.toNat
      let last := r.last.toNat
      let selection := ((lines.take last).drop (first - 1)).flatten
      let (out, names) := f.formatBody names selection
      let out := out.map fun s =>
        let s :=
          if !Bytes.endsWith selection (utf8 "\n") && Bytes.endsWith s (utf8 "\n") then s.dropLast
          else s
        (lines.take (first - 1)).flatten ++ s ++ (lines.drop last).flatten
      ⟨out, [], names⟩

end Formatter

end MarkdownTidy
