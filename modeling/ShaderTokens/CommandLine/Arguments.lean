import ShaderTokens.CommandLine.Options
import ShaderTokens.Text.Quoted
import ShaderTokens.Unicode.Numeral

/-!
# Arguments

A command line is read in two passes.  The first says of each argument whether it is an option, and
which; long names may be abbreviated.  The second gives options their values and finds the input.
-/

namespace ShaderTokens.CommandLine

/-! ## What a command line asks for -/

/-- Where readers of command lines differ. -/
structure ArgumentRules where
  /-- Letters behind `-h` that are no options are left unread. -/
  leavesLetters : Bool
  /-- The value `--` is a word. -/
  keepsDashes : Bool
  deriving DecidableEq, Repr

/-- A word given as the value of an option; `none` if the value is dropped. -/
abbrev GivenWord := Option String

def GivenWord.ofValue (rules : ArgumentRules) (value : String) : GivenWord :=
  if value = "--" && !rules.keepsDashes then none else some value

structure Arguments where
  input : Option String := none
  config : Option String := none
  types : List GivenWord := []
  qualifiers : List GivenWord := []
  keywords : List GivenWord := []
  builtins : List GivenWord := []
  classified : List GivenWord := []
  json : Bool := false
  whitespace : Bool := false
  debug : Bool := false
  deriving DecidableEq, Repr

inductive Request
  | help
  | run (arguments : Arguments)
  deriving DecidableEq, Repr

inductive UsageError
  | ambiguous (argument : String) (candidates : List OptionName)
  | missingValue (name : OptionName)
  | ignoredValue (name : OptionName) (value : String)
  | unrecognized (arguments : List String)
  deriving DecidableEq, Repr

def UsageError.message : UsageError → String
  | ambiguous argument candidates =>
    "ambiguous option: " ++ argument ++ " could match " ++
      String.intercalate ", " (candidates.map OptionName.long)
  | missingValue name => "argument " ++ name.label ++ ": expected one argument"
  | ignoredValue name value =>
    "argument " ++ name.label ++ ": ignored explicit argument " ++ Text.quoted value
  | unrecognized arguments => "unrecognized arguments: " ++ String.intercalate " " arguments

/-! ## Telling options from other arguments -/

structure GluedText where
  text : String
  isAssigned : Bool
  deriving DecidableEq, Repr

inductive Argument
  | plain (text : String)
  | short (name : OptionName) (value : Option GluedText)
  | long (name : OptionName) (value : Option String)
  | unknown (text : String)
  | terminator
  deriving DecidableEq, Repr

namespace Argument

/-- A minus sign and a number, whole or with a decimal point, perhaps with a line feed behind. -/
def isNegativeNumber (text : List Char) : Bool :=
  match text with
  | '-' :: number =>
    let number := if number.getLast? = some '\n' then number.dropLast else number
    let whole := number.takeWhile Unicode.isDecimalDigit
    match number.drop whole.length with
    | [] => !whole.isEmpty
    | '.' :: fraction => !fraction.isEmpty && fraction.all Unicode.isDecimalDigit
    | _ => false
  | _ => false

def ofOther (text : String) : Argument :=
  if isNegativeNumber text.toList || text.toList.contains ' ' then plain text else unknown text

def splitValue (text : List Char) : List Char × Option String :=
  let name := text.takeWhile (· ≠ '=')
  match text.drop name.length with
  | _ :: value => (name, some (String.ofList value))
  | [] => (name, none)

def ofLong (text : String) : Except UsageError Argument :=
  let (name, value) := splitValue text.toList
  match OptionName.ofLong? name, OptionName.abbreviatedBy name with
  | some name, _ => .ok (long name value)
  | none, [] => .ok (ofOther text)
  | none, [name] => .ok (long name value)
  | none, candidates => .error (.ambiguous text candidates)

def ofShort (text : String) (letter : Char) (others : List Char) : Argument :=
  match OptionName.ofLetter? letter, others with
  | none, _ => ofOther text
  | some name, [] => short name none
  | some name, '=' :: value => short name (some ⟨String.ofList value, true⟩)
  | some name, value => short name (some ⟨String.ofList value, false⟩)

def ofText (text : String) : Except UsageError Argument :=
  match text.toList with
  | '-' :: '-' :: _ => ofLong text
  | '-' :: letter :: others => .ok (ofShort text letter others)
  | _ => .ok (plain text)

/-- All arguments behind the first `--` are plain. -/
def ofTexts : List String → Except UsageError (List Argument)
  | [] => .ok []
  | text :: texts =>
    if text = "--" then .ok (terminator :: texts.map plain)
    else return (← ofText text) :: (← ofTexts texts)

end Argument

/-! ## Giving options their values -/

structure Progress where
  arguments : Arguments := {}
  inputSettled : Bool := false
  unrecognized : List String := []
  deriving DecidableEq, Repr

namespace Progress

def settleInput (progress : Progress) (input : Option String) : Progress :=
  { progress with
    arguments := { progress.arguments with input }
    inputSettled := true }

def refuse (progress : Progress) (text : String) : Progress :=
  { progress with unrecognized := progress.unrecognized ++ [text] }

def withFlag (progress : Progress) (name : OptionName) : Progress :=
  let arguments := progress.arguments
  { progress with
    arguments := match name with
      | .json => { arguments with json := true }
      | .whitespace => { arguments with whitespace := true }
      | .debug => { arguments with debug := true }
      | _ => arguments }

def withValue (rules : ArgumentRules) (progress : Progress) (name : OptionName)
    (value : String) : Progress :=
  let arguments := progress.arguments
  let word := GivenWord.ofValue rules value
  { progress with
    arguments := match name with
      | .config => { arguments with config := word }
      | .type => { arguments with types := arguments.types ++ [word] }
      | .qualifier => { arguments with qualifiers := arguments.qualifiers ++ [word] }
      | .keyword => { arguments with keywords := arguments.keywords ++ [word] }
      | .builtin => { arguments with builtins := arguments.builtins ++ [word] }
      | .classify => { arguments with classified := arguments.classified ++ [word] }
      | _ => arguments }

def finish (progress : Progress) : Except UsageError Request :=
  if progress.unrecognized.isEmpty then .ok (.run progress.arguments)
  else .error (.unrecognized progress.unrecognized)

end Progress

/-- Letters in one argument behind `-h`.  They are checked before help is given. -/
def readLetters (rules : ArgumentRules) (following : List Argument) :
    Bool → List Char → Except UsageError Request
  | _, [] => .error (.ignoredValue .help "")
  | isAssigned, letter :: others =>
    let ignored := .error (.ignoredValue .help (String.ofList (letter :: others)))
    if rules.leavesLetters && (isAssigned || letter = '-') then ignored
    else
      match OptionName.ofLetter? letter, others with
      | none, _ => if rules.leavesLetters then .ok .help else ignored
      | some name, [] =>
        match name.takesValue, following with
        | true, .plain _ :: _ | false, _ => .ok .help
        | true, _ => .error (.missingValue name)
      | some name, other :: others =>
        if name.takesValue then .ok .help
        else if rules.leavesLetters && other = '=' then readLetters rules following true others
        else readLetters rules following false (other :: others)

def readArguments (rules : ArgumentRules) (progress : Progress) :
    List Argument → Except UsageError Request
  | [] => progress.finish
  | .unknown text :: others => readArguments rules (progress.refuse text) others
  | .plain text :: others =>
    if progress.inputSettled then readArguments rules (progress.refuse text) others
    else
      match others with
      | .terminator :: others => readArguments rules (progress.settleInput (some text)) others
      | others => readArguments rules (progress.settleInput (some text)) others
  | .terminator :: others =>
    if progress.inputSettled then readArguments rules (progress.refuse "--") others
    else
      match others with
      | .plain text :: others => readArguments rules (progress.settleInput (some text)) others
      | others => readArguments rules (progress.settleInput none) others
  | .short name (some value) :: others =>
    if name.takesValue then readArguments rules (progress.withValue rules name value.text) others
    else readLetters rules others value.isAssigned value.text.toList
  | .long name (some value) :: others =>
    if name.takesValue then readArguments rules (progress.withValue rules name value) others
    else .error (.ignoredValue name value)
  | .short name none :: others | .long name none :: others =>
    if name.takesValue then
      match others with
      | .plain value :: others => readArguments rules (progress.withValue rules name value) others
      | _ => .error (.missingValue name)
    else if name = .help then .ok .help
    else readArguments rules (progress.withFlag name) others

def Request.ofTexts (rules : ArgumentRules) (texts : List String) : Except UsageError Request := do
  readArguments rules {} (← Argument.ofTexts texts)

end ShaderTokens.CommandLine
