import MarkdownTidy.Pipeline.Plugin

/-! Calls on a pipeline, one after the other. -/

namespace MarkdownTidy.Pipeline

inductive Call where
  | register (plugin : Plugin)
  | parse (source : Bytes)
  | format (source : Bytes)

/-- What a caller gets back. -/
inductive Answer where
  | registered
  | tree (document : Node)
  | text (out : Bytes)
  | refused (e : PipelineError)

/-- The answer to a call, and the shared names afterwards. -/
def answer (p : Pipeline) (names : MarkdownAttributes) : Call → Answer × MarkdownAttributes
  | .register x =>
    match p.register x with
    | .ok _ => (.registered, names)
    | .error e => (.refused e, names)
  | .parse source =>
    let read := readDocument p.grammar names source
    let (document, names) := read.finish
    match read.overrun? with
    | some o => (.refused (.overrun o), names)
    | none => (.tree document, names)
  | .format source =>
    match p.format names source with
    | (.ok out, names) => (.text out, names)
    | (.error e, names) => (.refused e, names)

def after (p : Pipeline) : Call → Pipeline
  | .register x => (p.register x).toOption.getD p
  | .parse _ | .format _ => p.sealed

def afterAll (p : Pipeline) (calls : List Call) : Pipeline := calls.foldl after p

end MarkdownTidy.Pipeline
