import ShaderTokens.Pattern.Reader.Escape

/-!
# Bracketed sets

`[...]` holds characters, ranges and classes; `^` in front negates it.  A closing bracket in first
place and a hyphen in last place stand for themselves.
-/

namespace ShaderTokens.Pattern.Reader

def CharEscape.item : CharEscape → SetItem
  | .code code => .range code code
  | .charClass charClass negated => .charClass charClass negated

def readSetMember : PatternSymbol → Reader CharEscape
  | .plain char => return .code char.toNat
  | .escaped char => readSetEscape char
  | .loneBackslash => fail .loneBackslash

/-- The ends of a range are quoted as they were written, an escape by its first two characters. -/
def rangeItem (low high : PatternSymbol) (first last : CharEscape) : Reader SetItem := do
  let bad : Reader SetItem :=
    failBack (.badRange (String.ofList low.text) (String.ofList high.text))
      (low.text.length + 1 + high.text.length)
  match first, last with
  | .code first, .code last => if last < first then bad else return .range first last
  | _, _ => bad

def readSetStep (opening : List PatternSymbol) (items : List SetItem) :
    Reader (List SetItem ⊕ List SetItem) := do
  match ← next? with
  | none => failAt .unterminatedSet opening
  | some low =>
    if low = .plain ']' && !items.isEmpty then return .inr items
    else
      let first ← readSetMember low
      if ← accept '-' then
        match ← next? with
        | none => failAt .unterminatedSet opening
        | some high =>
          if high = .plain ']' then return .inr (items ++ [CharEscape.item first, .range 45 45])
          else
            let last ← readSetMember high
            return .inl (items ++ [← rangeItem low high first last])
      else return .inl (items ++ [CharEscape.item first])

def readSet (opening : List PatternSymbol) : Reader (List SetItem × Bool) := do
  let negated ← accept '^'
  let items ← untilDone (readSetStep opening) []
  return (items, negated)

end ShaderTokens.Pattern.Reader
