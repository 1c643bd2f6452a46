import ShaderTokens.Decimal.Binary64

/-!
# Shortest decimals

A magnitude is written with the fewest digits that still round to it, and among those with the
digits nearest to it.
-/

namespace ShaderTokens.Decimal

/-! ## Digits -/

/-- The number `digits * 10 ^ exponent`. -/
structure Digits where
  digits : Nat
  exponent : Int
  deriving DecidableEq, Repr

/-- The fractions that round to a magnitude, in quarters of its last place: from `low` to `high`,
the ends included if the mantissa is even. -/
structure RoundingInterval where
  low : Nat
  high : Nat
  hasEnds : Bool

namespace Magnitude

def roundingInterval (magnitude : Magnitude) : RoundingInterval :=
  let quarters := 4 * magnitude.mantissa
  let narrow := magnitude.mantissa = Nat.pow 2 52 ∧ leastExponent < magnitude.exponent
  ⟨quarters - (if narrow then 1 else 2), quarters + 2, magnitude.mantissa % 2 == 0⟩

def nearestMultiple? (magnitude : Magnitude) (exponent : Int) : Option Nat :=
  let (tens, tenths) := powerFraction 10 exponent
  let (twos, halves) := powerFraction 2 (magnitude.exponent - 2)
  let interval := magnitude.roundingInterval
  -- A multiple and a number of quarters are compared after scaling both to whole numbers.
  let ofMultiple := fun multiple : Nat => multiple * tens * halves
  let ofQuarters := fun quarters : Nat => quarters * twos * tenths
  let isInside := fun multiple : Nat =>
    let place := ofMultiple multiple
    if interval.hasEnds then ofQuarters interval.low ≤ place && place ≤ ofQuarters interval.high
    else ofQuarters interval.low < place && place < ofQuarters interval.high
  let exact := ofQuarters (4 * magnitude.mantissa)
  let floor := exact / (tens * halves)
  let below := exact - ofMultiple floor
  let above := ofMultiple (floor + 1) - exact
  let prefersFloor := below < above || (below == above && floor % 2 == 0)
  match isInside floor, isInside (floor + 1) with
  | true, true => some (if prefersFloor then floor else floor + 1)
  | true, false => some floor
  | false, true => some (floor + 1)
  | false, false => none

def shortestFrom (magnitude : Magnitude) : Nat → Int → Digits
  | 0, exponent => ⟨0, exponent⟩
  | limit + 1, exponent =>
    match magnitude.nearestMultiple? exponent with
    | some digits => ⟨digits, exponent⟩
    | none => magnitude.shortestFrom limit (exponent - 1)

def shortest (magnitude : Magnitude) : Digits :=
  let whole := magnitude.mantissa * Nat.pow 2 magnitude.exponent.toNat
  let start := (Nat.toDigits 10 whole).length
  magnitude.shortestFrom (start + 400) start

end Magnitude

/-! ## Numbers -/

inductive Real
  | notANumber
  | infinite (negative : Bool)
  | finite (negative : Bool) (magnitude : Magnitude)
  deriving DecidableEq, Repr

/-- How decimals are laid out: positional while the point lies between these places, counted from
the first digit, and with an exponent of at least so many digits otherwise. -/
structure Layout where
  leastPoint : Int
  greatestPoint : Int
  exponentDigits : Nat

def standardLayout : Layout := ⟨-3, 16, 2⟩

namespace Layout

def zeros (count : Nat) : List Char := List.replicate count '0'

def padded (width value : Nat) : List Char :=
  let digits := Nat.toDigits 10 value
  zeros (width - digits.length) ++ digits

def positional (digits : List Char) (point : Int) : List Char :=
  if point ≤ 0 then '0' :: '.' :: (zeros (-point).toNat ++ digits)
  else if digits.length ≤ point.toNat then
    digits ++ zeros (point.toNat - digits.length) ++ ['.', '0']
  else digits.take point.toNat ++ '.' :: digits.drop point.toNat

def scientific (layout : Layout) (digits : List Char) (point : Int) : List Char :=
  let fraction := match digits.drop 1 with
    | [] => []
    | others => '.' :: others
  let power := point - 1
  digits.take 1 ++ fraction ++ ['e', if power < 0 then '-' else '+'] ++
    padded layout.exponentDigits power.natAbs

def write (layout : Layout) (number : Digits) : List Char :=
  let digits := Nat.toDigits 10 number.digits
  let point := digits.length + number.exponent
  if layout.leastPoint ≤ point && point ≤ layout.greatestPoint then positional digits point
  else layout.scientific digits point

end Layout

namespace Real

def text : Real → String
  | notANumber => "nan"
  | infinite negative => if negative then "-inf" else "inf"
  | finite negative magnitude =>
    let digits :=
      if magnitude.mantissa = 0 then ['0', '.', '0'] else standardLayout.write magnitude.shortest
    String.ofList (if negative then '-' :: digits else digits)

end Real

end ShaderTokens.Decimal
