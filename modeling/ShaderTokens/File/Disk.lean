import ShaderTokens.File.Path
import ShaderTokens.Text.LineEnd
import ShaderTokens.Text.Quoted
import ShaderTokens.Text.Utf8

/-!
# Disks

A disk says what is at each path.  Programs read source files as text in UTF-8, and look for files
that need not be there.
-/

namespace ShaderTokens

/-! ## What is at a path -/

inductive FileFault
  | notFound
  | notDirectory
  | isDirectory
  | nameTooLong
  deriving DecidableEq, Repr

namespace FileFault

def code : FileFault → Nat
  | notFound => 2
  | notDirectory => 20
  | isDirectory => 21
  | nameTooLong => 36

def description : FileFault → String
  | notFound => "No such file or directory"
  | notDirectory => "Not a directory"
  | isDirectory => "Is a directory"
  | nameTooLong => "File name too long"

end FileFault

/-- A path with a null character cannot be given to the system. -/
inductive DiskEntry
  | file (content : List UInt8)
  | directory
  | inaccessible (fault : FileFault)
  | unaddressable
  deriving DecidableEq, Repr

abbrev Disk := Path → DiskEntry

/-! ## Reading -/

inductive ReadFault
  | inaccessible (fault : FileFault) (path : Path)
  | unaddressable
  | undecodable (error : Text.Utf8.Error)
  deriving DecidableEq, Repr

def ReadFault.message : ReadFault → String
  | inaccessible fault path =>
    "[Errno " ++ toString fault.code ++ "] " ++ fault.description ++ ": " ++
      Text.quoted path.text
  | unaddressable => "embedded null byte"
  | undecodable error => error.message

namespace Disk

def content (disk : Disk) (path : Path) : Except ReadFault (List UInt8) :=
  match disk path with
  | .file content => .ok content
  | .directory => .error (.inaccessible .isDirectory path)
  | .inaccessible fault => .error (.inaccessible fault path)
  | .unaddressable => .error .unaddressable

def content? (disk : Disk) (path : Path) : Except ReadFault (Option (List UInt8)) :=
  match disk path with
  | .file content => .ok (some content)
  | .inaccessible .nameTooLong => .error (.inaccessible .nameTooLong path)
  | _ => .ok none

def decode (content : List UInt8) : Except ReadFault (List Char) :=
  (Text.Utf8.decode content).mapError ReadFault.undecodable

def text (disk : Disk) (path : Path) : Except ReadFault String := do
  let characters ← decode (← disk.content path)
  return String.ofList (Text.unifyLineEnds characters)

end Disk

end ShaderTokens
