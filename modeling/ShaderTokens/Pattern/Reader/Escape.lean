import ShaderTokens.Pattern.Reader.Groups
import ShaderTokens.Unicode.CharName

/-!
# Escapes

What a backslash and the character after it stand for, outside and inside bracketed sets.  Escaped
punctuation and non-ASCII characters stand for themselves; an ASCII letter or digit without a
meaning is a fault.
-/

namespace ShaderTokens.Pattern

inductive CharEscape
  | code (code : Nat)
  | charClass (charClass : CharClass) (negated : Bool)

def isOctalDigit (char : Char) : Bool := '0' ≤ char && char ≤ '7'

def octalValue (digits : List Char) : Nat :=
  digits.foldl (fun value digit => value * 8 + (digit.toNat - 48)) 0

def decimalValue (digits : List Char) : Nat :=
  digits.foldl (fun value digit => value * 10 + (digit.toNat - 48)) 0

def controlEscape? : Char → Option Nat
  | 'a' => some 7
  | 'b' => some 8
  | 't' => some 9
  | 'n' => some 10
  | 'v' => some 11
  | 'f' => some 12
  | 'r' => some 13
  | '\\' => some 92
  | _ => none

def classEscape? : Char → Option CharEscape
  | 'd' => some (.charClass .digit false)
  | 'D' => some (.charClass .digit true)
  | 's' => some (.charClass .blank false)
  | 'S' => some (.charClass .blank true)
  | 'w' => some (.charClass .word false)
  | 'W' => some (.charClass .word true)
  | _ => none

def anchorEscape? (asciiOnly : Bool) : Char → Option Anchor
  | 'A' => some .textStart
  | 'Z' => some .textEnd
  | 'b' => some (.wordBoundary asciiOnly)
  | 'B' => some (.insideWord asciiOnly)
  | _ => none

namespace Reader

def failEscape {α : Type} (cause : String → Malformation) (escape : List Char) : Reader α :=
  failBack (cause (String.ofList escape)) escape.length

def readHexEscape (letter : Char) (count : Nat) : Reader Nat := do
  let digits ← takeWhile Text.Hex.isDigit count
  let escape := '\\' :: letter :: digits
  let code := Text.Hex.decode digits
  if digits.length < count then failEscape .incompleteEscape escape
  else if 0x10FFFF < code then failEscape .badEscape escape
  else return code

def readNamedEscape : Reader Nat := do
  if ← accept '\x7b' then
    let name ← readName '\x7d' .character
    match Unicode.characterNamed? name with
    | some code => return code
    | none => failBack (.unknownCharacter name) (name.length + 4)
  else fail .missingBrace

def readOctalEscape (first : Char) : Reader Nat := do
  let digits := first :: (← takeWhile isOctalDigit 2)
  let code := octalValue digits
  if 0o377 < code then failEscape .octalOutOfRange ('\\' :: digits)
  else return code

/-- The forms that mean the same inside and outside a set. -/
def readCommonEscape (char : Char) : Reader Nat := do
  if char = 'x' then readHexEscape char 2
  else if char = 'u' then readHexEscape char 4
  else if char = 'U' then readHexEscape char 8
  else if char = 'N' then readNamedEscape
  else if char.isAlphanum then failEscape .badEscape ['\\', char]
  else return char.toNat

def readSetEscape (char : Char) : Reader CharEscape := do
  match controlEscape? char, classEscape? char with
  | some code, _ => return .code code
  | none, some charClass => return charClass
  | none, none =>
    if isOctalDigit char then return .code (← readOctalEscape char)
    else return .code (← readCommonEscape char)

/-- Three octal digits are a character; fewer digits are the number of a group. -/
def readNumericEscape (groups : Groups) (lookbehindLimit : Option Nat) (first : Char) :
    Reader (Nat ⊕ Pattern) := do
  let second ← takeWhile Char.isDigit 1
  let third ←
    if !second.isEmpty && (first :: second).all isOctalDigit then takeWhile isOctalDigit 1
    else pure []
  let digits := first :: (second ++ third)
  if !third.isEmpty then
    let code := octalValue digits
    if 0o377 < code then failEscape .octalOutOfRange ('\\' :: digits)
    else return .inl code
  else
    let group := decimalValue digits
    if group < groups.opened then
      return .inr (← groups.reference lookbehindLimit group (digits.length + 1))
    else failBack (.invalidGroupReference group) digits.length

end Reader

end ShaderTokens.Pattern
