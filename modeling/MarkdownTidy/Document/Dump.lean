import MarkdownTidy.Document.Node

/-! A readable listing of a document tree. -/

namespace MarkdownTidy.Dump

def indentation (level : Nat) : Bytes := Bytes.spaces (4 * level)

def line (level : Nat) (s : Bytes) : Bytes := indentation level ++ s ++ utf8 "\n"

def field (level : Nat) (name : String) (value : Bytes) : Bytes :=
  line level (utf8 name ++ utf8 ": " ++ value)

def quoted (s : Bytes) : Bytes := utf8 "\"" ++ s ++ utf8 "\""

def truth (b : Bool) : Bytes := if b then utf8 "true" else utf8 "false"

def trimFinal (s : Bytes) : Bytes := Bytes.trimRight (· == Bytes.newline) s

def textLine (level : Nat) (value : Bytes) (flags : List (Bool × String)) : Bytes :=
  let set := (flags.filter (·.1)).map fun f => utf8 f.2
  let flags := if set.isEmpty then [] else utf8 "(" ++ Bytes.join (utf8 ", ") set ++ utf8 ")"
  line level (utf8 "Text" ++ flags ++ utf8 ": " ++ quoted (trimFinal value))

def alignmentName : Alignment → Bytes
  | .none => utf8 "none"
  | .left => utf8 "left"
  | .right => utf8 "right"
  | .center => utf8 "center"

def shortcodeFields (level : Nat) (sc : Shortcode) : Bytes :=
  let last (name : Bytes) : Bytes :=
    ((sc.attributes.reverse.find? (·.name == name)).map (·.value)).getD []
  field level "Identifier" sc.identifier ++
    sc.attributes.names.eraseDups.flatMap fun name =>
      line level (utf8 "@" ++ name ++ utf8 ": " ++ last name)

/-- The fields that nodes of a kind have beside the common ones. -/
def fields (source : Bytes) (level : Nat) (count : Nat) : Kind → Bytes
  | .heading n => field level "Level" (decimal n)
  | .list mark start tight =>
    let ordered := mark == byte '.' || mark == byte ')'
    field level "Ordered" (truth ordered) ++ field level "Marker" [mark] ++
      field level "Tight" (truth tight) ++
      (if ordered then field level "Start" (decimal start) else [])
  | .listItem offset => field level "Offset" (decimal offset)
  | .fencedCode (some info) => field level "Info" (quoted (info.value source))
  | .table alignments =>
    line level (utf8 "Alignments \x7b") ++
      Bytes.join (utf8 "\n") (alignments.map fun a => indentation (level + 1) ++ alignmentName a) ++
      utf8 "\n" ++ line level (utf8 "\x7d")
  | .footnoteList => field level "Count" (decimal count)
  | .footnote label index => field level "Index" (decimal index) ++ field level "Ref" label
  | .blockShortcode sc | .shortcode sc => shortcodeFields level sc
  | .media d _ _ => field level "Destination" d
  | .emphasis n => field level "Level" (decimal n)
  | .link d title | .image d title =>
    field level "Destination" d ++ field level "Title" (title.getD [])
  | .autoLink _ _ label => field level "Value" (label.value source)
  | .rawHtml spans => field level "RawText" (spans.flatMap (·.value source))
  | .taskCheckBox checked => field level "Checked" (truth checked)
  | .footnoteLink index references position | .footnoteBacklink index references position =>
    field level "Index" (decimal index) ++ field level "RefCount" (decimal references) ++
      field level "RefIndex" (decimal position)
  | .alertFlag name => field level "Flag" name
  | _ => []

def blockFields (source : Bytes) (level : Nat) (info : Info) : Bytes :=
  field level "RawText" (quoted (info.lines.flatMap (·.value source))) ++
    field level "HasBlankPreviousLines" (truth info.blankBefore)

mutual

def node (source : Bytes) (level : Nat) : Node → Bytes
  | .mk info children =>
    let head := line level (utf8 info.kind.name ++ utf8 " \x7b")
    let inner := nodes source (level + 1) children
    let tail := line level (utf8 "\x7d")
    match info.kind with
    | .text span soft hard raw =>
      textLine level (span.value source)
        [(soft, "SoftLineBreak"), (hard, "HardLineBreak"), (raw, "Raw")]
    | .string value => line level (utf8 "String(Code): " ++ quoted (trimFinal value))
    | .htmlBlock _ closure =>
      let raw := info.lines.flatMap fun s => Bytes.slice source s.start s.stop
      head ++ field (level + 1) "RawText" (quoted raw) ++ inner ++
        ((closure.map fun s => field (level + 1) "Closure" (quoted (s.value source))).getD []) ++
        tail
    | k =>
      head ++ (if k.isBlock then blockFields source (level + 1) info else []) ++
        fields source (level + 1) children.length k ++ inner ++ tail

def nodes (source : Bytes) (level : Nat) : List Node → Bytes
  | [] => []
  | n :: ns => node source level n ++ nodes source level ns

end

end MarkdownTidy.Dump

namespace MarkdownTidy

def Node.dump (n : Node) (source : Bytes) : Bytes := Dump.node source 0 n

end MarkdownTidy
