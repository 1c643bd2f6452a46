import ShaderTokens.Config.Lexicon
import ShaderTokens.Editor.SemanticTokens
import ShaderTokens.TokenStream

/-!
# Documents in an editor

An editor shows diagnostics and semantic tokens for the documents of its host.  The lexicon of a
document is configured by a file beside it, which is read anew each time.  A wrong configuration is
shown as a diagnostic, and the document is read with the words of HLSL alone.
-/

namespace ShaderTokens.Editor

/-! ## Lexicons of documents -/

inductive DocumentFault
  | unreadable (fault : ReadFault)
  | digits (fault : Decimal.DigitFault)
  | lexicon (error : LexiconError)
  deriving DecidableEq, Repr

def DocumentFault.message : DocumentFault → String
  | unreadable fault => fault.message
  | digits fault => fault.message
  | lexicon error => error.message

structure DocumentLexicon where
  lexicon : Lexicon := Lexicon.standard
  problem : Option String := none

namespace DocumentLexicon

def ofOptions (options : LexiconOptions) : Except DocumentFault DocumentLexicon :=
  if options = {} then .ok {}
  else
    match Lexicon.ofOptions options with
    | .ok lexicon => .ok { lexicon }
    | .error (.invalidPattern pattern category fault) =>
      .ok { problem := some (LexiconError.invalidPattern pattern category fault).message }
    | .error error => .error (.lexicon error)

def inDirectory (disk : Disk) (directory : Path) : Except DocumentFault DocumentLexicon :=
  match disk.configuredOptions (directory.child configName) with
  | .ok options => ofOptions options
  | .error (.refused error) => .ok { problem := some error.message }
  | .error (.unreadable fault) => .error (.unreadable fault)
  | .error (.digits fault) => .error (.digits fault)

/-- The lexicon of the document at a path.  Documents without a path have no configuration. -/
def ofPath (disk : Disk) (path : Option String) : Except DocumentFault DocumentLexicon :=
  match path with
  | none => .ok {}
  | some text => if text = "" then .ok {} else inDirectory disk (Path.ofString text).parent

end DocumentLexicon

/-! ## Diagnostics -/

inductive Severity
  | error
  | warning
  deriving DecidableEq, Repr

def Severity.code : Severity → Nat
  | error => 1
  | warning => 2

/-- A place in a document, counted from line 0 and character 0. -/
structure DocumentPosition where
  line : Int
  character : Int
  deriving DecidableEq, Repr

def DocumentPosition.ofPosition (position : Position) : DocumentPosition :=
  ⟨position.line - 1, position.column - 1⟩

structure DocumentDiagnostic where
  start : DocumentPosition
  stop : DocumentPosition
  severity : Severity
  message : String
  deriving DecidableEq, Repr

def diagnosticSource : String := "hlslex"

namespace DocumentDiagnostic

def ofProblem (problem : String) : DocumentDiagnostic :=
  ⟨⟨0, 0⟩, ⟨0, 0⟩, .error, problem⟩

def ofDiagnostic (diagnostic : Diagnostic) : DocumentDiagnostic :=
  ⟨.ofPosition diagnostic.span.start, .ofPosition diagnostic.span.stop, .warning,
    diagnostic.message⟩

end DocumentDiagnostic

/-! ## Documents of a host -/

/-- A document as the editor's host hands it out.  Its text is wanted after its path. -/
structure TextDocument where
  path : Option String
  source : Except ReadFault String

/-- The documents of a host, by their addresses. -/
abbrev Workspace := String → TextDocument

def shownName (address : String) : String :=
  String.ofList ((Text.between '/' address.toList).getLastD [])

namespace Workspace

def stream (workspace : Workspace) (disk : Disk) (address filename : String) :
    Except DocumentFault (Option String × TokenStream) := do
  let document := workspace address
  let found ← DocumentLexicon.ofPath disk document.path
  let source ← document.source.mapError DocumentFault.unreadable
  return (found.problem, ⟨found.lexicon, source, filename⟩)

def diagnostics (workspace : Workspace) (disk : Disk) (address : String) :
    Except DocumentFault (List DocumentDiagnostic) := do
  let (problem, stream) ← workspace.stream disk address (shownName address)
  return problem.toList.map .ofProblem ++ stream.diagnostics.map .ofDiagnostic

def semanticTokens (workspace : Workspace) (disk : Disk) (address : String) :
    Except DocumentFault (List Int) := do
  let (_, stream) ← workspace.stream disk address "input.hlsl"
  return encodeTokens stream.allTokens

end Workspace

end ShaderTokens.Editor
