import ShaderTokens.Text.Hex

/-!
# Number literals

A number has one of four forms: hexadecimal, with a point, with an exponent only, and whole.  They
are tried in this order, and within a form every part is as long as it can be.
-/

namespace ShaderTokens.Lexeme

namespace Number

def isHexMark (char : Char) : Bool := char = 'x' || char = 'X'

def isExponentMark (char : Char) : Bool := char = 'e' || char = 'E'

def isSign (char : Char) : Bool := char = '+' || char = '-'

def isWholeSuffix (char : Char) : Bool := char = 'u' || char = 'U' || char = 'l' || char = 'L'

def isHalfSuffix (char : Char) : Bool := char = 'f' || char = 'F' || char = 'h' || char = 'H'

def isRealSuffix (char : Char) : Bool := isHalfSuffix char || char = 'l' || char = 'L'

/-! ## Parts -/

def digits (chars : List Char) : List Char := chars.takeWhile Char.isDigit

def suffix (isMember : Char → Bool) : List Char → List Char
  | [] => []
  | char :: _ => if isMember char then [char] else []

def signedDigits? (chars : List Char) : Option (List Char) :=
  let sign := suffix isSign chars
  let power := digits (chars.drop sign.length)
  if power.isEmpty then none else some (sign ++ power)

def exponent? : List Char → Option (List Char)
  | [] => none
  | mark :: chars =>
    if isExponentMark mark then (signedDigits? chars).map (mark :: ·) else none

def realTail (chars : List Char) : List Char :=
  let exponent := (exponent? chars).getD []
  exponent ++ suffix isRealSuffix (chars.drop exponent.length)

/-! ## Forms -/

def hexadecimal? : List Char → Option (List Char)
  | '0' :: mark :: chars =>
    if isHexMark mark then
      let hexDigits := chars.takeWhile Text.Hex.isDigit
      if hexDigits.isEmpty then none
      else
        let letters := (chars.drop hexDigits.length).takeWhile isWholeSuffix
        some ('0' :: mark :: (hexDigits ++ letters))
    else none
  | _ => none

def pointed? (chars : List Char) : Option (List Char) :=
  let whole := digits chars
  match chars.drop whole.length with
  | '.' :: others =>
    let fraction := digits others
    if whole.isEmpty && fraction.isEmpty then none
    else some (whole ++ '.' :: fraction ++ realTail (others.drop fraction.length))
  | _ => none

def scientific? (chars : List Char) : Option (List Char) :=
  let whole := digits chars
  if whole.isEmpty then none
  else
    (exponent? (chars.drop whole.length)).map fun exponent =>
      let front := whole ++ exponent
      front ++ suffix isRealSuffix (chars.drop front.length)

def whole? (chars : List Char) : Option (List Char) :=
  let whole := digits chars
  if whole.isEmpty then none
  else
    let others := chars.drop whole.length
    let letters := others.takeWhile isWholeSuffix
    some (whole ++ if letters.isEmpty then suffix isHalfSuffix others else letters)

end Number

def number? (chars : List Char) : Option (List Char) :=
  Number.hexadecimal? chars <|> Number.pointed? chars <|> Number.scientific? chars <|>
    Number.whole? chars

end ShaderTokens.Lexeme
