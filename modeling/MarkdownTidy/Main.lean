import MarkdownTidy.Cli.Run

/-! The program: the command line on the files of the machine. -/

namespace MarkdownTidy

def systemErrorNumber (code : UInt32) : Nat :=
  if code.toNat < Nat.pow 2 31 then code.toNat else Nat.pow 2 32 - code.toNat

def FileCause.ofSystem : IO.Error → FileCause
  | .noFileOrDirectory .. => .missing
  | .inappropriateType _ code details =>
    if systemErrorNumber code == 20 then .notDirectory
    else if systemErrorNumber code == 21 then .isDirectory
    else .other (utf8 details)
  | .invalidArgument _ code _ =>
    if systemErrorNumber code == 36 then .nameTooLong else .invalidName
  | .permissionDenied _ _ details => .other (Bytes.lowerAscii (utf8 details))
  | e => .other (utf8 (toString e))

def FileCause.isUnreadable : FileCause → Bool
  | other _ => true
  | _ => false

def pathText (path : Bytes) : String := (String.fromUTF8? ⟨path.toArray⟩).getD ""

def readSystemFile (path : Bytes) : IO (Except FileError Bytes) := do
  try
    let data ← IO.FS.readBinFile (pathText path)
    return .ok data.data.toList
  catch e =>
    let cause := FileCause.ofSystem e
    return .error ⟨if cause = .isDirectory then .reading else .opening, path, cause⟩

def writeSystemFile (path content : Bytes) : IO (Except FileError Unit) := do
  try
    IO.FS.writeBinFile (pathText path) ⟨content.toArray⟩
    return .ok ()
  catch e => return .error ⟨.opening, path, .ofSystem e⟩

partial def readToEnd (input : IO.FS.Stream) (seen : ByteArray) : IO ByteArray := do
  let part ← input.read 65536
  if part.isEmpty then return seen else readToEnd input (seen ++ part)

def systemHost : Host IO where
  workingDirectory := return utf8 (← IO.currentDir).toString
  standardInput := return (← readToEnd (← IO.getStdin) .empty).data.toList
  isFile path := do
    match ← readSystemFile path with
    | .ok _ => return true
    | .error e => return e.cause.isUnreadable
  readFile := readSystemFile
  writeFile := writeSystemFile

end MarkdownTidy

open MarkdownTidy in
def main (args : List String) : IO UInt32 := do
  let e ← Cli.run systemHost .initial (args.map utf8)
  (← IO.getStdout).write ⟨e.stdout.toArray⟩
  let stopped := (e.overrun?.map fun o => utf8 "panic: " ++ o.message ++ [Bytes.newline]).getD []
  (← IO.getStderr).write ⟨(e.log.flatMap (· ++ [Bytes.newline]) ++ e.stderr ++ stopped).toArray⟩
  return e.code.toUInt32
