/-!
# Hexadecimal digits

Numbers in base sixteen with a fixed number of lower-case digits.
-/

namespace ShaderTokens.Text.Hex

def digit (value : Nat) : Char :=
  if value < 10 then Char.ofNat (48 + value) else Char.ofNat (87 + value)

/-- The last `width` digits of a number, the most significant first. -/
def encode : Nat → Nat → List Char
  | 0, _ => []
  | width + 1, value => encode width (value / 16) ++ [digit (value % 16)]

def digitValue? (char : Char) : Option Nat :=
  if char.isDigit then some (char.toNat - 48)
  else if 'a' ≤ char ∧ char ≤ 'f' then some (char.toNat - 87)
  else if 'A' ≤ char ∧ char ≤ 'F' then some (char.toNat - 55)
  else none

def isDigit (char : Char) : Bool := (digitValue? char).isSome

/-- Characters that are not digits count as zero. -/
def decode (digits : List Char) : Nat :=
  digits.foldl (fun value char => value * 16 + (digitValue? char).getD 0) 0

@[simp] theorem length_encode (width value : Nat) : (encode width value).length = width := by
  induction width generalizing value with
  | zero => rfl
  | succ width hypothesis => simp [encode, hypothesis]

end ShaderTokens.Text.Hex
