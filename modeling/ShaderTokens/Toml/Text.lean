import ShaderTokens.Text.Hex
import ShaderTokens.Toml.Reader

/-!
# Strings in documents

Basic strings, between double quotes, have escapes; literal strings, between single quotes, have
none.  Three quotes enclose a string of several lines.
-/

namespace ShaderTokens.Toml.Reader

def isScalarValue (code : Nat) : Bool := code < 0xD800 || (0xE000 ≤ code && code < 0x110000)

def readHexChar (count : Nat) : Reader Char := do
  let digits := (← get).take count
  if digits.length < count || !digits.all Text.Hex.isDigit then fail .invalidHexadecimal
  else
    skip count
    let code := Text.Hex.decode digits
    if isScalarValue code then return Char.ofNat code else fail .notScalarValue

def plainEscape? : Char → Option Char
  | 'b' => some '\x08'
  | 't' => some '\t'
  | 'n' => some '\n'
  | 'f' => some '\x0c'
  | 'r' => some '\r'
  | '"' => some '"'
  | '\\' => some '\\'
  | _ => none

/-- A backslash at the end of a line removes the white space up to the next text. -/
def skipLineBreak (first : Char) : Reader Unit := do
  if first ≠ '\n' then
    skipBlanks
    match ← peek? with
    | none => return
    | some '\n' => skip 1
    | some _ => fail .unescapedBackslash
  let _ ← takeAll isBlankOrFeed

def readEscape (isMultiline : Bool) : Reader (List Char) := do
  let id := ((← get).drop 1).head?
  skip 2
  match id with
  | none => fail .unescapedBackslash
  | some char =>
    if isMultiline && isBlankOrFeed char then
      skipLineBreak char
      return []
    else if char = 'u' then return [← readHexChar 4]
    else if char = 'U' then return [← readHexChar 8]
    else
      match plainEscape? char with
      | some meaning => return [meaning]
      | none => fail .unescapedBackslash

def isIllegalIn (isMultiline : Bool) (char : Char) : Bool :=
  isControl char && !(isMultiline && char = '\n')

def readBasicStep (isMultiline : Bool) (text : List Char) : Reader (List Char ⊕ List Char) := do
  match ← peek? with
  | none => fail .unterminatedString
  | some '"' =>
    if !isMultiline then
      skip 1
      return .inr text
    else if ← accept "\"\"\"" then return .inr text
    else
      skip 1
      return .inl (text ++ ['"'])
  | some '\\' => return .inl (text ++ (← readEscape isMultiline))
  | some char =>
    if isIllegalIn isMultiline char then fail (.illegalCharacter char)
    else
      skip 1
      return .inl (text ++ [char])

def readBasic (isMultiline : Bool) : Reader (List Char) :=
  untilDone (readBasicStep isMultiline) []

def readLiteral (isMultiline : Bool) : Reader (List Char) :=
  takeThrough (if isMultiline then "'''" else "'") (isIllegalIn isMultiline)

/-- At most two further quotes may stand directly in front of the closing three. -/
def readExtraQuotes (quote : String) : Reader (List Char) := do
  if ← accept quote then
    if ← accept quote then return quote.toList ++ quote.toList else return quote.toList
  else return []

def skipFirstFeed : Reader Unit := do
  let _ ← accept "\n"

def readMultiline? : Reader (Option String) := do
  if ← accept "\"\"\"" then
    skipFirstFeed
    let text ← readBasic true
    return some (String.ofList (text ++ (← readExtraQuotes "\"")))
  else if ← accept "'''" then
    skipFirstFeed
    let text ← readLiteral true
    return some (String.ofList (text ++ (← readExtraQuotes "'")))
  else return none

def readSingleLine? : Reader (Option String) := do
  if ← accept "\"" then return some (String.ofList (← readBasic false))
  else if ← accept "'" then return some (String.ofList (← readLiteral false))
  else return none

end ShaderTokens.Toml.Reader
