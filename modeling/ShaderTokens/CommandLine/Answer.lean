import ShaderTokens.CommandLine.Arguments
import ShaderTokens.CommandLine.Report
import ShaderTokens.Config.Lexicon
import ShaderTokens.Lexicon.Notice

/-!
# Answering a command line

From the arguments, the disk and the standard input to what the program writes and its exit status.
Status 2 means that the program did not come as far as a report.
-/

namespace ShaderTokens.CommandLine

/-- What the program takes over from the system that runs it: how command lines are read, and what
is shown of a notice. -/
structure Host where
  rules : ArgumentRules
  showNotice : WordNotice → String

namespace Host

def showNote (host : Host) (debug : Bool) : BuildNote → String
  | .notice notice => host.showNotice notice
  | .compiled category count =>
    if debug then
      "hlslex.lexicon: compiled " ++ toString count ++ " " ++ category.name ++ " patterns\n"
    else ""

def showNotes (host : Host) (debug : Bool) (notes : List BuildNote) : String :=
  String.join (notes.eraseDups.map (host.showNote debug))

end Host

inductive Breakdown
  | unreadable (fault : ReadFault)
  | digits (fault : Decimal.DigitFault)
  | lexicon (error : LexiconError)
  | missingWord
  deriving DecidableEq, Repr

def Breakdown.message : Breakdown → String
  | unreadable fault => fault.message
  | digits fault => fault.message
  | lexicon error => error.message
  | missingWord => "expected string or bytes-like object, got 'list'"

namespace Arguments

/-! ## Files -/

def inputPath? (arguments : Arguments) : Option Path :=
  match arguments.input with
  | none => none
  | some text => if text = "" || text = "-" then none else some (Path.ofString text)

def configPath (arguments : Arguments) : Path :=
  let beside := ((arguments.inputPath?.map Path.parent).getD ⟨.relative, []⟩).child configName
  match arguments.config with
  | none => beside
  | some text => if text = "" then beside else Path.ofString text

def paths (arguments : Arguments) : List Path :=
  arguments.configPath :: arguments.inputPath?.toList

def readsStandardInput (arguments : Arguments) : Bool :=
  arguments.classified.isEmpty && arguments.input.isSome && arguments.inputPath?.isNone

/-! ## Settings -/

/-- The given words; one that is missing counts as an empty one. -/
def wordTexts (words : List GivenWord) : List String := words.map (·.getD "")

def additional (arguments : Arguments) : LexiconOptions where
  additionalTypes := wordTexts arguments.types
  additionalQualifiers := wordTexts arguments.qualifiers
  additionalKeywords := wordTexts arguments.keywords
  additionalBuiltins := wordTexts arguments.builtins

def settings (arguments : Arguments) (configured : LexiconOptions) : Settings where
  options := configured.append arguments.additional
  classified := wordTexts arguments.classified
  json := arguments.json
  whitespace := arguments.whitespace
  debug := arguments.debug

/-! ## The source -/

structure Source where
  text : String := ""
  filename : String := "<stdin>"
  notes : String := ""

def extensionNote (path : Path) : String :=
  if path.hasShaderExtension then ""
  else "note: " ++ path.text ++ " does not have a shader file extension\n"

def source (arguments : Arguments) (disk : Disk) (standardInput : String) :
    Except ReadFault Source :=
  if !arguments.classified.isEmpty then .ok {}
  else
    match arguments.inputPath? with
    | none => .ok { text := String.ofList (Text.unifyLineEnds standardInput.toList) }
    | some path => do
      return { text := ← disk.text path, filename := path.text, notes := extensionNote path }

def unreadableInput (arguments : Arguments) (fault : ReadFault) : Except Breakdown Outcome :=
  match fault, arguments.inputPath? with
  | .unaddressable, _ | _, none => .error (.unreadable fault)
  | fault, some path =>
    .ok ((Outcome.error ("cannot read " ++ path.text ++ ": " ++ fault.message)).withNotes
      (extensionNote path))

/-! ## The report -/

def wordsOf (arguments : Arguments) (configured : LexiconOptions) :
    Category → List String × List GivenWord
  | .type => (configured.additionalTypes, arguments.types)
  | .qualifier => (configured.additionalQualifiers, arguments.qualifiers)
  | .keyword => (configured.additionalKeywords, arguments.keywords)
  | .builtin => (configured.additionalBuiltins, arguments.builtins)
  | _ => ([], [])

/-- The first word without characters is one that is missing. -/
def missesWord (arguments : Arguments) (configured : LexiconOptions) (category : Category) :
    Bool :=
  let (earlier, given) := arguments.wordsOf configured category
  !earlier.contains "" && given.find? (·.getD "" = "") == some none

/-- A missing word is shown as an empty list. -/
def refusalMessage (arguments : Arguments) (configured : LexiconOptions)
    (error : LexiconError) : String :=
  match error with
  | .invalidPattern _ category .empty =>
    if arguments.missesWord configured category then
      "invalid " ++ category.name ++ " pattern []: " ++ WordFault.empty.message
    else error.message
  | _ => error.message

def buildNotes (settings : Settings) : List BuildNote :=
  match hlslWords.extend settings.options.extensions with
  | .ok words => words.buildNotes
  | .error _ => []

def report (host : Host) (arguments : Arguments) (configured : LexiconOptions)
    (source : Source) : Except Breakdown Outcome :=
  let settings := arguments.settings configured
  let notes := source.notes ++ host.showNotes settings.debug (buildNotes settings)
  match settings.report source.text source.filename with
  | .ok outcome =>
    if arguments.classified.contains none then .error .missingWord
    else .ok (outcome.withNotes notes)
  | .error .repetitionTooLarge => .error (.lexicon .repetitionTooLarge)
  | .error .conflictingCharsets => .error (.lexicon .conflictingCharsets)
  | .error (.digits fault) => .error (.lexicon (.digits fault))
  | .error error =>
    .ok ((Outcome.error (arguments.refusalMessage configured error)).withNotes notes)

def answer (host : Host) (arguments : Arguments) (disk : Disk) (standardInput : String) :
    Except Breakdown Outcome :=
  match disk.configuredOptions arguments.configPath with
  | .error (.refused error) => .ok (.error error.message)
  | .error (.unreadable fault) => .error (.unreadable fault)
  | .error (.digits fault) => .error (.digits fault)
  | .ok configured =>
    if arguments.classified.isEmpty && arguments.input.isNone then
      .ok (.error "an input file (or '-') is required without --classify")
    else
      match arguments.source disk standardInput with
      | .error fault => arguments.unreadableInput fault
      | .ok source => arguments.report host configured source

end Arguments

def answer (host : Host) (disk : Disk) (standardInput : String) (texts : List String) :
    Except Breakdown Outcome :=
  match Request.ofTexts host.rules texts with
  | .error error =>
    .ok { status := 2, errors := usage ++ "hlslex: error: " ++ error.message ++ "\n" }
  | .ok .help => .ok { output := helpText }
  | .ok (.run arguments) => arguments.answer host disk standardInput

end ShaderTokens.CommandLine
