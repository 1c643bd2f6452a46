import ShaderTokens.Decimal.DigitLimit
import ShaderTokens.Text.Quoted

/-!
# What is wrong with a document

The ways in which text fails to be a TOML document, what is said about each, and where it is.
-/

namespace ShaderTokens.Toml

abbrev Key := List String

/-- A key between parentheses, its parts quoted; a single part is followed by a comma. -/
def showKey (key : Key) : String :=
  match key with
  | [part] => "(" ++ Text.quoted part ++ ",)"
  | parts => "(" ++ String.intercalate ", " (parts.map Text.quoted) ++ ")"

def showChar (char : Char) : String := Text.quoted char.toString

inductive Cause
  /- statements -/
  | invalidStatement
  | expectedLineEnd
  | expectedTableClose
  | expectedArrayClose
  | expectedEquals
  | invalidKeyStart
  /- tables -/
  | declaredTwice (key : Key)
  | immutableNamespace (key : Key)
  | redefinedNamespace (key : Key)
  | overwrittenValue
  | duplicateInlineKey (key : String)
  /- values -/
  | invalidValue
  | invalidDate
  | unclosedArray
  | unclosedInlineTable
  /- strings and comments -/
  | unterminatedString
  | illegalCharacter (char : Char)
  | invalidCharacter (char : Char)
  | expectedText (text : String)
  | unescapedBackslash
  | invalidHexadecimal
  | notScalarValue
  deriving DecidableEq, Repr

def Cause.message : Cause → String
  | invalidStatement => "Invalid statement"
  | expectedLineEnd => "Expected newline or end of document after a statement"
  | expectedTableClose => "Expected ']' at the end of a table declaration"
  | expectedArrayClose => "Expected ']]' at the end of an array declaration"
  | expectedEquals => "Expected '=' after a key in a key/value pair"
  | invalidKeyStart => "Invalid initial character for a key part"
  | declaredTwice key => "Cannot declare " ++ showKey key ++ " twice"
  | immutableNamespace key => "Cannot mutate immutable namespace " ++ showKey key
  | redefinedNamespace key => "Cannot redefine namespace " ++ showKey key
  | overwrittenValue => "Cannot overwrite a value"
  | duplicateInlineKey key => "Duplicate inline table key " ++ Text.quoted key
  | invalidValue => "Invalid value"
  | invalidDate => "Invalid date or datetime"
  | unclosedArray => "Unclosed array"
  | unclosedInlineTable => "Unclosed inline table"
  | unterminatedString => "Unterminated string"
  | illegalCharacter char => "Illegal character " ++ showChar char
  | invalidCharacter char => "Found invalid character " ++ showChar char
  | expectedText text => "Expected " ++ Text.quoted text
  | unescapedBackslash => "Unescaped '\\' in a string"
  | invalidHexadecimal => "Invalid hex value"
  | notScalarValue => "Escaped character is not a Unicode scalar value"

structure Place where
  line : Nat
  column : Nat
  deriving DecidableEq, Repr

/-- A cause and its place; `none` is the end of the document. -/
structure Error where
  cause : Cause
  place : Option Place
  deriving DecidableEq, Repr

namespace Error

def ofUnread (cause : Cause) (document : List Char) (unread : Nat) : Error :=
  let leading := document.take (document.length - unread)
  let lastLine := leading.reverse.takeWhile (· ≠ '\n')
  { cause
    place := if unread = 0 then none else some ⟨leading.count '\n' + 1, lastLine.length + 1⟩ }

def message (error : Error) : String :=
  let place := match error.place with
    | none => "end of document"
    | some place => "line " ++ toString place.line ++ ", column " ++ toString place.column
  error.cause.message ++ " (at " ++ place ++ ")"

end Error

inductive Failure
  | malformed (error : Error)
  | digits (fault : Decimal.DigitFault)
  deriving DecidableEq, Repr

end ShaderTokens.Toml
