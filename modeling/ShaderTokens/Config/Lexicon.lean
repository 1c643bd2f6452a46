import ShaderTokens.Config.Value
import ShaderTokens.File.Disk
import ShaderTokens.Lexicon.Options
import ShaderTokens.Toml.Document

/-!
# Configured words

A configuration file beside the sources adds words to the lexicon: lists in its table `lexicon`, one
for each category that can be extended.
-/

namespace ShaderTokens

/-! ## Errors -/

inductive ConfigError
  | malformed (path : Path) (error : Toml.Error)
  | lexiconNotTable
  | wordsNotList (key : String)
  deriving DecidableEq, Repr

def ConfigError.message : ConfigError → String
  | malformed path error => path.text ++ ": " ++ error.message
  | lexiconNotTable => "[lexicon] must be a table"
  | wordsNotList key => "[lexicon] " ++ key ++ " must be a list of strings"

/-- Why there is no configuration: it says something wrong, its bytes cannot be read as text, or it
holds a whole number that is not converted. -/
inductive ConfigFault
  | refused (error : ConfigError)
  | unreadable (fault : ReadFault)
  | digits (fault : Decimal.DigitFault)
  deriving DecidableEq, Repr

namespace ConfigFault

def message : ConfigFault → String
  | refused error => error.message
  | unreadable fault => fault.message
  | digits fault => fault.message

def ofFailure (path : Path) : Toml.Failure → ConfigFault
  | .malformed error => refused (.malformed path error)
  | .digits fault => digits fault

end ConfigFault

/-! ## Options -/

namespace LexiconOptions

def append (first second : LexiconOptions) : LexiconOptions where
  additionalTypes := first.additionalTypes ++ second.additionalTypes
  additionalQualifiers := first.additionalQualifiers ++ second.additionalQualifiers
  additionalKeywords := first.additionalKeywords ++ second.additionalKeywords
  additionalBuiltins := first.additionalBuiltins ++ second.additionalBuiltins

def configuredWords (entries : ConfigTable) (key : String) : Except ConfigFault (List String) :=
  match entries.lookup key with
  | none => .ok []
  | some (.array items) => (items.mapM ConfigValue.text).mapError ConfigFault.digits
  | some _ => .error (.refused (.wordsNotList key))

def ofSection (entries : ConfigTable) : Except ConfigFault LexiconOptions := do
  return {
    additionalTypes := ← configuredWords entries "additional_types"
    additionalQualifiers := ← configuredWords entries "additional_qualifiers"
    additionalKeywords := ← configuredWords entries "additional_keywords"
    additionalBuiltins := ← configuredWords entries "additional_builtins" }

def ofConfig (config : ConfigTable) : Except ConfigFault LexiconOptions :=
  match config.lookup "lexicon" with
  | none => .ok {}
  | some (.table entries) => ofSection entries
  | some _ => .error (.refused .lexiconNotTable)

end LexiconOptions

/-! ## Files -/

def configName : String := "hlslex.toml"

/-- The table of a configuration file; an empty one if there is no such file. -/
def Disk.config (disk : Disk) (path : Path) : Except ConfigFault ConfigTable := do
  match ← (disk.content? path).mapError ConfigFault.unreadable with
  | none => return []
  | some content =>
    let characters ← (Disk.decode content).mapError ConfigFault.unreadable
    (Toml.parse characters).mapError (ConfigFault.ofFailure path)

def Disk.configuredOptions (disk : Disk) (path : Path) : Except ConfigFault LexiconOptions := do
  LexiconOptions.ofConfig (← disk.config path)

end ShaderTokens
