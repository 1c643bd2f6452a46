import ShaderTokens.Config.Value
import ShaderTokens.Toml.Reader

/-!
# Numbers in documents

Whole numbers are decimal, hexadecimal, octal or binary; reals have a fraction, an exponent or both.
Single underscores may stand between digits.
-/

namespace ShaderTokens.Toml

namespace Number

def digitGroups (isDigit : Char → Bool) : List Char → List Char
  | [] => []
  | '_' :: digit :: others =>
    if isDigit digit then '_' :: digit :: digitGroups isDigit others else []
  | digit :: others => if isDigit digit then digit :: digitGroups isDigit others else []

def digits? (isDigit : Char → Bool) (chars : List Char) : Option (List Char) :=
  match chars with
  | [] => none
  | first :: _ => if isDigit first then some (digitGroups isDigit chars) else none

def value (base : Nat) (digits : List Char) : Nat :=
  (digits.filter (· ≠ '_')).foldl
    (fun total digit => total * base + (Text.Hex.digitValue? digit).getD 0) 0

def isOctal (char : Char) : Bool := '0' ≤ char && char ≤ '7'

def isBinary (char : Char) : Bool := char = '0' || char = '1'

/-- A number's value, the length of its text, and the decimal digits that were converted to a whole
number. -/
structure Found where
  value : ConfigValue
  length : Nat
  converted : Nat := 0

def based? (chars : List Char) : Option Found := do
  match chars with
  | '0' :: mark :: others =>
    let (base, isDigit) ←
      if mark = 'x' then some (16, Text.Hex.isDigit)
      else if mark = 'b' then some (2, isBinary)
      else if mark = 'o' then some (8, isOctal)
      else none
    let digits ← digits? isDigit others
    return ⟨.integer (value base digits), digits.length + 2, 0⟩
  | _ => none

def sign : List Char → List Char
  | '+' :: _ => ['+']
  | '-' :: _ => ['-']
  | _ => []

def whole? : List Char → Option (List Char)
  | '0' :: _ => some ['0']
  | chars => digits? Char.isDigit chars

def fraction : List Char → List Char
  | '.' :: others => ((digits? Char.isDigit others).map ('.' :: ·)).getD []
  | _ => []

def exponent? : List Char → Option (List Char × List Char × List Char)
  | mark :: others =>
    if mark = 'e' || mark = 'E' then
      let sign := sign others
      (digits? Char.isDigit (others.drop sign.length)).map fun digits => ([mark], sign, digits)
    else none
  | [] => none

def signed (sign : List Char) (value : Nat) : Int := if sign = ['-'] then -value else value

def real (sign wholeDigits fractionDigits : List Char) (power : Int) : Decimal.Real :=
  let digits := fractionDigits.filter Char.isDigit
  let negative := sign = ['-']
  match Decimal.Magnitude.ofDecimal? (value 10 (wholeDigits ++ digits)) (power - digits.length) with
  | some magnitude => .finite negative magnitude
  | none => .infinite negative

def decimal? (chars : List Char) : Option Found := do
  let sign := sign chars
  let afterSign := chars.drop sign.length
  let wholeDigits ← whole? afterSign
  let afterWhole := afterSign.drop wholeDigits.length
  let fractionDigits := fraction afterWhole
  let front := sign.length + wholeDigits.length + fractionDigits.length
  match exponent? (afterWhole.drop fractionDigits.length) with
  | some (mark, powerSign, powerDigits) =>
    let power := signed powerSign (value 10 powerDigits)
    return ⟨.real (real sign wholeDigits fractionDigits power),
      front + mark.length + powerSign.length + powerDigits.length, 0⟩
  | none =>
    if fractionDigits.isEmpty then
      return {
        value := .integer (signed sign (value 10 wholeDigits))
        length := front
        converted := (wholeDigits.filter (· ≠ '_')).length }
    else return ⟨.real (real sign wholeDigits fractionDigits 0), front, 0⟩

def special? (chars : List Char) : Option Found :=
  let sign := sign chars
  let word := (chars.drop sign.length).take 3
  if word = ['i', 'n', 'f'] then some ⟨.real (.infinite (sign = ['-'])), sign.length + 3, 0⟩
  else if word = ['n', 'a', 'n'] then some ⟨.real .notANumber, sign.length + 3, 0⟩
  else none

end Number

namespace Reader

def readNumber? : Reader (Option ConfigValue) := do
  let unread ← get
  match Number.based? unread <|> Number.decimal? unread <|> Number.special? unread with
  | some found =>
    match Decimal.checkDigits found.converted with
    | .error fault => throw (.digits fault)
    | .ok () =>
      skip found.length
      return some found.value
  | none => return none

end Reader

end ShaderTokens.Toml
