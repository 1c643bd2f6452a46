/-!
# A limit on digits

Whole numbers are converted from and to decimal digits up to a limit only.
-/

namespace ShaderTokens.Decimal

def digitLimit : Nat := 4300

inductive DigitFault
  | reading (digits : Nat)
  | writing
  deriving DecidableEq, Repr

namespace DigitFault

def message (fault : DigitFault) : String :=
  let found := match fault with
    | reading digits => ": value has " ++ toString digits ++ " digits"
    | writing => ""
  "Exceeds the limit (" ++ toString digitLimit ++ " digits) for integer string conversion" ++
    found ++ "; use sys.set_int_max_str_digits() to increase the limit"

end DigitFault

def checkDigits (count : Nat) : Except DigitFault Unit :=
  if digitLimit < count then .error (.reading count) else .ok ()

def write (value : Int) : Except DigitFault String :=
  if digitLimit < (toString value.natAbs).length then .error .writing else .ok (toString value)

end ShaderTokens.Decimal
