import ShaderTokens.CommandLine.Answer

/-!
# The program

Reads the files that the arguments name, and the standard input if the source comes from there, and
writes what the answer to the command line says.
-/

namespace ShaderTokens.CommandLine

def systemHost : Host where
  rules := ⟨false, false⟩
  showNotice notice := "note: " ++ notice.notice.message ++ "\n"

/-- The system's number for a directory that was opened as a file. -/
def directoryCode : UInt32 := 21

def lookAt (path : Path) : IO DiskEntry := do
  if path.text.toList.contains (Char.ofNat 0) then return .unaddressable
  try
    return .file (← IO.FS.readBinFile path.text).toList
  catch
    | .noFileOrDirectory .. => return .inaccessible .notFound
    | .inappropriateType _ code _ =>
      return if code = directoryCode then .directory else .inaccessible .notDirectory
    | .invalidArgument .. => return .inaccessible .nameTooLong
    | error => throw error

def readDisk (paths : List Path) : IO Disk := do
  let entries ← paths.mapM fun path => return (path, ← lookAt path)
  return fun path => (entries.lookup path).getD (.inaccessible .notFound)

partial def readBytes (stream : IO.FS.Stream) (bytes : ByteArray) : IO ByteArray := do
  let chunk ← stream.read 65536
  if chunk.isEmpty then return bytes else readBytes stream (bytes ++ chunk)

def readStandardInput : IO String := do
  match Disk.decode (← readBytes (← IO.getStdin) .empty).toList with
  | .ok characters => return String.ofList characters
  | .error fault => throw (.userError fault.message)

end ShaderTokens.CommandLine

open ShaderTokens.CommandLine in
def main (texts : List String) : IO UInt32 := do
  let arguments := match Request.ofTexts systemHost.rules texts with
    | .ok (.run arguments) => arguments
    | _ => {}
  let disk ← readDisk arguments.paths
  let input ← if arguments.readsStandardInput then readStandardInput else pure ""
  match answer systemHost disk input texts with
  | .ok outcome =>
    IO.print outcome.output
    IO.eprint outcome.errors
    return UInt32.ofNat outcome.status
  | .error breakdown =>
    IO.eprintln breakdown.message
    return 1
