import MarkdownTidy.Cli.Flag
import MarkdownTidy.Cli.LineRange
import MarkdownTidy.Config.Locate
import MarkdownTidy.Formatter
import MarkdownTidy.Preview.Page

/-! The command line: formatting documents, and previewing one. -/

namespace MarkdownTidy.Cli

/-- How a command ended: its exit code, what it printed, the shared attribute names afterwards, and where the
program was stopped if it did not get to its end. -/
structure Exit where
  code : Nat
  stdout : Bytes := []
  stderr : Bytes := []
  log : List Bytes := []
  names : MarkdownAttributes
  overrun? : Option Overrun := none

inductive Failure where
  | file (e : FileError)
  | config (e : Config.LoadError)
  | format (document : Bytes) (e : FormatError)
  deriving DecidableEq, Repr

def Failure.message : Failure → Bytes
  | file e => e.message
  | config e => e.message
  | format document e => document ++ utf8 ": " ++ e.message

def Failure.overrun? : Failure → Option Overrun
  | format _ e => e.overrun?
  | _ => none

def complaint (text : Bytes) : Bytes := utf8 "tidymd: " ++ text ++ [Bytes.newline]

structure Options where
  write : Bool := false
  list : Bool := false
  /-- The line range as it was given; none when empty. -/
  lines : Bytes := []
  /-- The configuration file as it was given; none when empty. -/
  config : Bytes := []
  attributes : List Bytes := []
  /-- Accepted; no timings are taken. -/
  verbose : Bool := false
  deriving DecidableEq, Repr, Inhabited

def configPurpose : String := "configuration file (default: nearest .tidymd.yaml)"

def Options.flags : List (Flag Options) :=
  [.value "attr" "name" "also format the values of attribute name as markdown (repeatable)"
      fun v o => { o with attributes := o.attributes ++ [v] },
    .value "config" "file" configPurpose fun v o => { o with config := v },
    .switch "l" "list files whose formatting differs" fun b o => { o with list := b },
    .value "lines" "a:b" "format only lines a:b (1-based, inclusive)"
      fun v o => { o with lines := v },
    .switch "v" "log timings" fun b o => { o with verbose := b },
    .switch "w" "write result to the source file instead of stdout"
      fun b o => { o with write := b }]

/-- A document and where its text comes from. -/
structure Source where
  name : Bytes
  fromInput : Bool
  deriving DecidableEq, Repr, Inhabited

def Source.standardInput : Source := ⟨utf8 "<standard input>", true⟩

def Source.named (name : Bytes) : Source := ⟨name, false⟩

def stoppedCode : Nat := 2

/-- What came of formatting one document. -/
structure Report where
  failure : Option Failure := none
  stdout : Bytes := []
  log : List Bytes := []
  names : MarkdownAttributes

def Report.overrun? (r : Report) : Option Overrun := r.failure.bind (·.overrun?)

def Report.exit (r : Report) : Exit where
  code := if r.overrun?.isSome then stoppedCode else if r.failure.isSome then 1 else 0
  stdout := r.stdout
  stderr := if r.overrun?.isSome then [] else (r.failure.map fun f => complaint f.message).getD []
  log := r.log
  names := r.names
  overrun? := r.overrun?

variable {m : Type → Type} [Monad m]

def Source.read (s : Source) (host : Host m) : m (Except FileError Bytes) :=
  if s.fromInput then .ok <$> host.standardInput else host.readFile s.name

def loadConfig (host : Host m) (given : Bytes) (s : Source) : m (Except Config.LoadError Config) :=
  if !given.isEmpty then Config.load host given
  else Config.forDocument host (if s.fromInput then [] else s.name)

def withAttributes (c : Config) (attributes : List Bytes) : Config :=
  { c with shortcodes.markdownAttributes :=
      Config.concatUnique c.shortcodes.markdownAttributes attributes }

def formatText (config : Config) (range : Option LineRange) (names : MarkdownAttributes)
    (text : Bytes) : Formatted :=
  match Formatter.new config names with
  | (.error e, names) => ⟨.error e, [], names⟩
  | (.ok f, names) =>
    match range with
    | some r => f.formatRange names none text r
    | none => f.format names none text

/-- Formats one document, and lists, writes or prints the result. -/
def formatDocument (host : Host m) (o : Options) (range : Option LineRange)
    (names : MarkdownAttributes) (s : Source) : m Report := do
  match ← s.read host with
  | .error e => return { failure := some (.file e), names }
  | .ok text =>
    match ← loadConfig host o.config s with
    | .error e => return { failure := some (.config e), names }
    | .ok config =>
      let done := formatText (withAttributes config o.attributes) range names text
      match done.result with
      | .error e => return { failure := some (.format s.name e), log := done.log, names := done.names }
      | .ok out =>
        let changed := text != out
        let listed := if o.list && changed then s.name ++ [Bytes.newline] else []
        let report : Report := { stdout := listed, log := done.log, names := done.names }
        if o.write then
          if changed then
            match ← host.writeFile s.name out with
            | .ok () => return report
            | .error e => return { report with failure := some (.file e) }
          else return report
        else if o.list then return report
        else return { report with stdout := out }

def formatAll (host : Host m) (o : Options) (range : Option LineRange) (names : MarkdownAttributes) :
    List Source → m Exit
  | [] => return { code := 0, names }
  | s :: rest => do
    let r ← formatDocument host o range names s
    if r.overrun?.isSome then return r.exit
    else
      let e ← formatAll host o range r.names rest
      return { code := if r.failure.isSome && e.overrun?.isNone then 1 else e.code
               stdout := r.stdout ++ e.stdout
               stderr := r.exit.stderr ++ e.stderr
               log := r.log ++ e.log
               names := e.names
               overrun? := e.overrun? }

def refuse (names : MarkdownAttributes) (text : Bytes) : Exit := { code := 2, stderr := text, names }

def flagExit {σ : Type} (command : String) (flags : List (Flag σ)) (names : MarkdownAttributes)
    (e : FlagError) : Exit :=
  { code := e.code, stderr := e.message ++ Flag.usage (utf8 command) flags, names }

def format (host : Host m) (names : MarkdownAttributes) (args : List Bytes) : m Exit :=
  match Flag.parse Options.flags {} args with
  | .error e => return flagExit "tidymd" Options.flags names e
  | .ok (o, files) =>
    let start (range : Option LineRange) : m Exit :=
      if files.isEmpty then
        if o.write then
          return refuse names (complaint (utf8 "cannot use -w with standard input"))
        else formatAll host o range names [.standardInput]
      else formatAll host o range names (files.map .named)
    if o.lines.isEmpty then start none
    else
      match LineRange.parse o.lines with
      | .error e => return refuse names (complaint e.message)
      | .ok r => start (some r)

structure PreviewOptions where
  /-- Where to write the page; to the standard output when empty. -/
  output : Bytes := []
  config : Bytes := []
  deriving DecidableEq, Repr, Inhabited

def PreviewOptions.flags : List (Flag PreviewOptions) :=
  [.value "config" "file" configPurpose fun v o => { o with config := v },
    .value "o" "file" "write the page to file instead of stdout" fun v o => { o with output := v }]

/-- Writes the page of one document. -/
def previewDocument (host : Host m) (o : PreviewOptions) (names : MarkdownAttributes) (s : Source) :
    m Exit := do
  let fail (f : Failure) : Exit := { code := 1, stderr := complaint f.message, names }
  match ← s.read host with
  | .error e => return fail (.file e)
  | .ok text =>
    match ← loadConfig host o.config s with
    | .error e => return fail (.config e)
    | .ok config =>
      let page := Preview.render [] config names text
      let printed : Exit := { code := 0, log := page.log, names := page.names }
      if page.overrun?.isSome then
        return { code := stoppedCode, names := page.names, overrun? := page.overrun? }
      else if o.output.isEmpty then return { printed with stdout := page.html }
      else
        match ← host.writeFile o.output page.html with
        | .ok () => return printed
        | .error e => return { printed with code := 1, stderr := complaint e.message }

def preview (host : Host m) (names : MarkdownAttributes) (args : List Bytes) : m Exit :=
  match Flag.parse PreviewOptions.flags {} args with
  | .error e => return flagExit "tidymd preview" PreviewOptions.flags names e
  | .ok (o, [name]) =>
    previewDocument host o names (if name == utf8 "-" then .standardInput else .named name)
  | .ok _ =>
    return refuse names (utf8 "usage: tidymd preview [-o out.html] [-config file] file\n")

def run (host : Host m) (names : MarkdownAttributes) : List Bytes → m Exit
  | [] => format host names []
  | a :: args => if a == utf8 "preview" then preview host names args else format host names (a :: args)

end MarkdownTidy.Cli
