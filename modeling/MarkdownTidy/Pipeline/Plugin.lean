import MarkdownTidy.Pipeline.Basic

/-! Extensions of a pipeline: single rules and visitors, shortcodes, alerts and attribute lists. -/

namespace MarkdownTidy

/-- Something that registers itself while a pipeline is built. -/
inductive Plugin where
  | inlineRule (name : Bytes) (rule : InlineRule) (before : Bytes)
  | blockRule (name : Bytes) (rule : BlockRule) (before : Bytes)
  | visitor (kind : String) (v : Visitor)
  | shortcodes (source : ShortcodeSource) (inline : Bool)
  | alerts
  | attributeList

namespace Pipeline

def addShortcodes (p : Pipeline) (source : ShortcodeSource) (inline : Bool) :
    Except PipelineError Pipeline := do
  let name := utf8 "shortcode"
  let html := utf8 "html"
  let p ←
    if inline then
      p.addInlineRule name (.shortcode source) (p.inline.earliest [source.reader.trigger] html)
    else p.addBlockRule name (.shortcode source) html
  return p.addVisitor "Shortcode" .shortcode

def addAlerts (p : Pipeline) : Except PipelineError Pipeline := do
  let p ← p.addInlineRule (utf8 "alert") .alert (utf8 "link")
  return p.addVisitor "AlertFlag" .alertFlag

def addAttributeLists (p : Pipeline) : Except PipelineError Pipeline := do
  let p ← p.addInlineRule (utf8 "attributeList") .attributeList []
  return p.addVisitor "AttrList" .attributeList

def register (p : Pipeline) : Plugin → Except PipelineError Pipeline
  | .inlineRule name rule before => p.addInlineRule name rule before
  | .blockRule name rule before => p.addBlockRule name rule before
  | .visitor kind v => .ok (p.addVisitor kind v)
  | .shortcodes source inline => p.addShortcodes source inline
  | .alerts => p.addAlerts
  | .attributeList => p.addAttributeLists

def registerAll : Pipeline → List Plugin → Except PipelineError Pipeline
  | p, [] => .ok p
  | p, x :: xs =>
    match p.register x with
    | .error e => .error (.plugin e)
    | .ok p => registerAll p xs

def new (style : Style) (plugins : List Plugin) : Except PipelineError Pipeline :=
  match style.problem? with
  | some e => .error (.style e)
  | none => (bare style).registerAll plugins

end Pipeline

end MarkdownTidy
