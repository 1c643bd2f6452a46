import ShaderTokens.Pattern.Reader.Escape

/-!
# Quantifiers

`*`, `+`, `?` and the braces `{m}`, `{m,}`, `{,n}`, `{m,n}`.  Braces of any other form stand for
themselves.
-/

namespace ShaderTokens.Pattern

def repetitionLimit : Nat := 4294967295

structure Quantifier where
  least : Nat
  greatest : Option Nat

namespace Reader

def quantifierOf (lowDigits : List Char) (highDigits : Option (List Char)) : Quantifier :=
  let number := fun digits : List Char =>
    if digits.isEmpty then none else some (decimalValue digits)
  let low := number lowDigits
  let high := match highDigits with
    | none => low
    | some digits => number digits
  ⟨low.getD 0, high⟩

def checkCount (digits : List Char) : Reader Unit :=
  match Decimal.checkDigits digits.length with
  | .error fault => throw (.digits fault)
  | .ok () => if repetitionLimit ≤ decimalValue digits then throw .repetitionTooLarge else return

/-- The counts after an opening brace; `none`, with nothing read, if they are not well formed. -/
def readCounts : Reader (Option Quantifier) := do
  let start ← get
  if start.head? = some (.plain '\x7d') then return none
  let lowDigits ← takeAll Char.isDigit
  let highDigits ← if ← accept ',' then some <$> takeAll Char.isDigit else pure none
  if ← accept '\x7d' then
    checkCount lowDigits
    checkCount (highDigits.getD [])
    let quantifier := quantifierOf lowDigits highDigits
    if quantifier.greatest.any (· < quantifier.least) then
      failAt .minimumAboveMaximum start
    return some quantifier
  else
    set start
    return none

def readQuantifier : Char → Reader (Option Quantifier)
  | '*' => return some ⟨0, none⟩
  | '+' => return some ⟨1, none⟩
  | '?' => return some ⟨0, some 1⟩
  | '\x7b' => readCounts
  | _ => return none

def readGreed : Reader Greed := do
  if ← accept '?' then return .lazy
  else if ← accept '+' then return .possessive
  else return .greedy

end Reader

end ShaderTokens.Pattern
