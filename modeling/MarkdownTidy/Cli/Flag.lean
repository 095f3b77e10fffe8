import MarkdownTidy.Text.Quoted

/-! Command line flags: `-name`, `--name`, `-name=value` and `-name value`, up to the first argument
that is none, or up to `--`. -/

namespace MarkdownTidy

inductive FlagKind (σ : Type) where
  | switch (set : Bool → σ → σ)
  | value (placeholder : Bytes) (set : Bytes → σ → σ)

/-- A flag that changes options of type `σ`. -/
structure Flag (σ : Type) where
  name : Bytes
  purpose : Bytes
  kind : FlagKind σ

inductive FlagError where
  | help
  | malformed (argument : Bytes)
  | undefined (name : Bytes)
  | notBoolean (name value : Bytes)
  | valueMissing (name : Bytes)
  deriving DecidableEq, Repr

namespace Flag

variable {σ : Type}

def switch (name purpose : String) (set : Bool → σ → σ) : Flag σ :=
  ⟨utf8 name, utf8 purpose, .switch set⟩

def value (name placeholder purpose : String) (set : Bytes → σ → σ) : Flag σ :=
  ⟨utf8 name, utf8 purpose, .value (utf8 placeholder) set⟩

def bool? (s : Bytes) : Option Bool :=
  if ["1", "t", "T", "TRUE", "true", "True"].any (s == utf8 ·) then some true
  else if ["0", "f", "F", "FALSE", "false", "False"].any (s == utf8 ·) then some false
  else none

/-- An argument as a flag. -/
inductive Shape where
  | none
  | terminator
  | malformed
  | flag (name : Bytes) (value : Option Bytes)
  deriving DecidableEq, Repr

def shapeOfName : Bytes → Shape
  | [] => .malformed
  | c :: rest =>
    if c == byte '-' || c == byte '=' then .malformed
    else
      match Bytes.indexOf? (byte '=') rest with
      | some i => .flag (c :: rest.take i) (some (rest.drop (i + 1)))
      | none => .flag (c :: rest) .none

def shape : Bytes → Shape
  | a :: b :: rest =>
    if a != byte '-' then .none
    else if b != byte '-' then shapeOfName (b :: rest)
    else if rest.isEmpty then .terminator
    else shapeOfName rest
  | _ => .none

/-- Reads the flags in front of the arguments; the options and the other arguments come of it. -/
def parse (flags : List (Flag σ)) (options : σ) :
    List Bytes → Except FlagError (σ × List Bytes)
  | [] => .ok (options, [])
  | a :: args =>
    match shape a with
    | .none => .ok (options, a :: args)
    | .terminator => .ok (options, args)
    | .malformed => .error (.malformed a)
    | .flag name given =>
      match flags.find? (·.name == name) with
      | none =>
        if name == utf8 "help" || name == utf8 "h" then .error .help else .error (.undefined name)
      | some f =>
        match f.kind, given, args with
        | .switch set, none, args => parse flags (set true options) args
        | .switch set, some v, args =>
          match bool? v with
          | some b => parse flags (set b options) args
          | none => .error (.notBoolean name v)
        | .value _ set, some v, args => parse flags (set v options) args
        | .value _ set, none, v :: args => parse flags (set v options) args
        | .value _ _, none, [] => .error (.valueMissing name)

def describe (f : Flag σ) : Bytes :=
  let head := utf8 "  -" ++ f.name ++
    match f.kind with
    | .switch _ => []
    | .value placeholder _ => utf8 " " ++ placeholder
  head ++ utf8 (if head.length ≤ 4 then "\t" else "\n    \t") ++ f.purpose ++ [Bytes.newline]

def usage (command : Bytes) (flags : List (Flag σ)) : Bytes :=
  utf8 "Usage of " ++ command ++ utf8 ":\n" ++ flags.flatMap describe

end Flag

def FlagError.message : FlagError → Bytes
  | help => []
  | malformed a => utf8 "bad flag syntax: " ++ a ++ [Bytes.newline]
  | undefined n => utf8 "flag provided but not defined: -" ++ n ++ [Bytes.newline]
  | notBoolean n v =>
    utf8 "invalid boolean value " ++ Text.quote v ++ utf8 " for -" ++ n ++ utf8 ": parse error\n"
  | valueMissing n => utf8 "flag needs an argument: -" ++ n ++ [Bytes.newline]

def FlagError.code : FlagError → Nat
  | help => 0
  | _ => 2

end MarkdownTidy
