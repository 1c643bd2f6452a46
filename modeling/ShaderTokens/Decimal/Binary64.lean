/-!
# Binary floating-point magnitudes

The nonnegative finite numbers with 53 significant bits and exponents from -1074, and the rounding
of a positive fraction to the nearest of them.
-/

namespace ShaderTokens.Decimal

/-- The number `mantissa * 2 ^ exponent`.  The mantissa has 53 bits, or fewer at the least
exponent. -/
structure Magnitude where
  mantissa : Nat
  exponent : Int
  deriving DecidableEq, Repr

def leastExponent : Int := -1074

def greatestExponent : Int := 971

def mantissaBound : Nat := Nat.pow 2 53

/-- The nearest whole number to a fraction; of two equally near ones, the even one. -/
def roundHalfEven (numerator denominator : Nat) : Nat :=
  let floor := numerator / denominator
  let doubled := 2 * (numerator % denominator)
  if denominator < doubled || (doubled == denominator && floor % 2 == 1) then floor + 1 else floor

def powerFraction (base : Nat) (exponent : Int) : Nat × Nat :=
  (Nat.pow base exponent.toNat, Nat.pow base (-exponent).toNat)

namespace Magnitude

def zero : Magnitude := ⟨0, leastExponent⟩

def exponentFor (numerator denominator : Nat) : Int :=
  let difference : Int := (numerator.log2 : Int) - denominator.log2
  let (above, below) := powerFraction 2 difference
  if denominator * above ≤ numerator * below then difference - 52 else difference - 53

/-- The nearest magnitude to a positive fraction; `none` beyond the greatest one. -/
def ofFraction? (numerator denominator : Nat) : Option Magnitude :=
  let exponent := max (exponentFor numerator denominator) leastExponent
  let (above, below) := powerFraction 2 exponent
  let mantissa := roundHalfEven (numerator * below) (denominator * above)
  let rounded : Magnitude :=
    if mantissa = mantissaBound then ⟨Nat.pow 2 52, exponent + 1⟩ else ⟨mantissa, exponent⟩
  if greatestExponent < rounded.exponent then none else some rounded

/-- The nearest magnitude to `digits * 10 ^ exponent`.  Powers far outside the range are not
computed. -/
def ofDecimal? (digits : Nat) (exponent : Int) : Option Magnitude :=
  let count := (Nat.toDigits 10 digits).length
  if digits = 0 || count + exponent < -400 then some zero
  else if 400 < count + exponent then none
  else
    let (above, below) := powerFraction 10 exponent
    ofFraction? (digits * above) below

end Magnitude

end ShaderTokens.Decimal
