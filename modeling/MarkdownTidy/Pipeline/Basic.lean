import MarkdownTidy.Document.Parse
import MarkdownTidy.Pipeline.RuleList
import MarkdownTidy.Writer.Visitor

/-! A pipeline reads markdown and writes it back. Its grammar and its visitors can be extended until
it has read its first document. -/

namespace MarkdownTidy

/-- Where a rule belongs. -/
inductive RuleSide where
  | inline | block
  deriving DecidableEq, Repr

/-- Why a pipeline could not be built, extended or run. -/
inductive PipelineError where
  | style (e : StyleError)
  | isSealed
  | rule (side : RuleSide) (e : RuleError)
  | plugin (e : PipelineError)
  /-- A visitor failed. -/
  | visitor (message : Bytes)
  /-- The program was stopped. -/
  | overrun (o : Overrun)
  deriving DecidableEq, Repr

namespace PipelineError

def message : PipelineError → Bytes
  | style e => e.message
  | isSealed => utf8 "pipeline is sealed"
  | rule .inline e => utf8 "inline rule: " ++ e.message
  | rule .block e => utf8 "block rule: " ++ e.message
  | plugin e => utf8 "register plugin: " ++ e.message
  | visitor m => m
  | overrun o => o.message

def overrun? : PipelineError → Option Overrun
  | overrun o => some o
  | _ => none

end PipelineError

/-- A value with the priority it is tried at. -/
structure Prioritized (α : Type) where
  priority : Int
  value : α

namespace Prioritized

def place {α : Type} (p : Prioritized α) : List (Prioritized α) → List (Prioritized α)
  | [] => [p]
  | q :: qs => if q.priority ≤ p.priority then q :: place p qs else p :: q :: qs

def inOrder {α : Type} (l : List (Prioritized α)) : List α :=
  (l.foldl (fun acc p => place p acc) []).map (·.value)

end Prioritized

structure Pipeline where
  style : Style
  inline : RuleList
  block : RuleList
  /-- The inline rules that text is parsed with, in the order they were registered. -/
  inlineRules : List (Prioritized InlineRule)
  blockRules : List (Prioritized BlockRule)
  visitors : VisitorRegistry
  isSealed : Bool

namespace Pipeline

def defaultInline : List (RuleEntry × InlineRule) := [
  (⟨utf8 "taskCheckBox", 0, utf8 "["⟩, .taskCheckBox),
  (⟨utf8 "code", 100, utf8 "`"⟩, .codeSpan),
  (⟨utf8 "footnote", 101, utf8 "["⟩, .footnote),
  (⟨utf8 "link", 200, utf8 "[]!"⟩, .link),
  (⟨utf8 "autolink", 300, utf8 "<"⟩, .autoLink),
  (⟨utf8 "html", 400, utf8 "<"⟩, .rawHtml),
  (⟨utf8 "emphasis", 500, utf8 "*_"⟩, .emphasis),
  (⟨utf8 "strikethrough", 500, utf8 "~"⟩, .strikethrough)]

/-- The block rules of every pipeline. -/
def defaultBlock : List (RuleEntry × BlockRule) := [
  (⟨utf8 "setextHeading", 100, []⟩, .setextHeading),
  (⟨utf8 "thematicBreak", 200, []⟩, .thematicBreak),
  (⟨utf8 "list", 300, []⟩, .list),
  (⟨utf8 "listItem", 400, []⟩, .listItem),
  (⟨utf8 "codeBlock", 500, []⟩, .codeBlock),
  (⟨utf8 "atxHeading", 600, []⟩, .atxHeading),
  (⟨utf8 "fencedCode", 700, []⟩, .fencedCode),
  (⟨utf8 "blockquote", 800, []⟩, .blockquote),
  (⟨utf8 "html", 900, []⟩, .html),
  (⟨utf8 "footnoteBlock", 999, []⟩, .footnote),
  (⟨utf8 "paragraph", 1000, []⟩, .paragraph)]

/-- A pipeline that nothing was added to. -/
def bare (style : Style) : Pipeline where
  style := style
  inline := defaultInline.map (·.1)
  block := defaultBlock.map (·.1)
  inlineRules := defaultInline.map fun (e, r) => ⟨e.priority, r⟩
  blockRules := defaultBlock.map fun (e, r) => ⟨e.priority, r⟩
  visitors := []
  isSealed := false

def addInlineRule (p : Pipeline) (name : Bytes) (rule : InlineRule) (before : Bytes) :
    Except PipelineError Pipeline :=
  if p.isSealed then .error .isSealed
  else
    match p.inline.insert name before rule.triggers with
    | .error e => .error (.rule .inline e)
    | .ok (l, priority) =>
      .ok { p with inline := l, inlineRules := p.inlineRules ++ [⟨priority, rule⟩] }

def addBlockRule (p : Pipeline) (name : Bytes) (rule : BlockRule) (before : Bytes) :
    Except PipelineError Pipeline :=
  if p.isSealed then .error .isSealed
  else
    match p.block.insert name before [] with
    | .error e => .error (.rule .block e)
    | .ok (l, priority) =>
      .ok { p with block := l, blockRules := p.blockRules ++ [⟨priority, rule⟩] }

def addVisitor (p : Pipeline) (kind : String) (v : Visitor) : Pipeline :=
  { p with visitors := (kind, v) :: p.visitors }

def grammar (p : Pipeline) : Grammar where
  block := Prioritized.inOrder p.blockRules
  inline := Prioritized.inOrder p.inlineRules
  tables := true
  headingIds := false

def sealed (p : Pipeline) : Pipeline := { p with isSealed := true }

def parse (p : Pipeline) (names : MarkdownAttributes) (source : Bytes) : Node × MarkdownAttributes :=
  parseDocument p.grammar names source

/-- Reads a source and writes it in canonical form. -/
def format (p : Pipeline) (names : MarkdownAttributes) (source : Bytes) :
    Except PipelineError Bytes × MarkdownAttributes :=
  let read := readDocument p.grammar names source
  let (doc, names) := read.finish
  match read.overrun? with
  | some o => (.error (.overrun o), names)
  | none => ((Writer.write p.style p.visitors source doc).mapError .visitor, names)

end Pipeline

end MarkdownTidy
