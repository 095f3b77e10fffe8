import MarkdownTidy.Text.Composition

/-! Curly quotes, primes and dashes become ASCII. -/

namespace MarkdownTidy.Punctuation

/-- The marks that are replaced. -/
inductive Mark where
  | apostrophe | quote | enDash | emDash
  deriving DecidableEq, Repr

def mark? : Bytes → Option Mark
  | 0xE2 :: 0x80 :: c :: _ =>
    if c == 0x99 || c == 0xB2 then some .apostrophe
    else if c == 0x9C || c == 0x9D || c == 0xB3 then some .quote
    else if c == 0x93 then some .enDash
    else if c == 0x94 then some .emDash
    else none
  | _ => none

def replaceFrom (spelling : Mark → Bytes) (skip : Nat) : Bytes → Bytes
  | [] => []
  | b :: rest =>
    match skip with
    | n + 1 => replaceFrom spelling n rest
    | 0 =>
      match mark? (b :: rest) with
      | some m => spelling m ++ replaceFrom spelling 2 rest
      | none => b :: replaceFrom spelling 0 rest

def replace (spelling : Mark → Bytes) (s : Bytes) : Bytes :=
  replaceFrom spelling 0 (Text.compose s)

def plain : Mark → Bytes
  | .apostrophe => utf8 "'"
  | .quote => utf8 "\""
  | .enDash => utf8 "--"
  | .emDash => utf8 "---"

def entities : Mark → Bytes
  | .apostrophe => utf8 "&apos;"
  | .quote => utf8 "&quot;"
  | m => plain m

def clean (s : Bytes) : Bytes := replace plain s

def escape (s : Bytes) : Bytes := replace entities s

end MarkdownTidy.Punctuation
