import ShaderTokens.Pattern.Malformation
import ShaderTokens.Pattern.Symbol
import ShaderTokens.Reading

/-!
# Reading symbols

Pattern text is read symbol by symbol.  A fault remembers the symbols that were still unread where
it lies, so that its place in the text can be worked out at the end.
-/

namespace ShaderTokens.Pattern

open PatternSymbol

/-- The fault lies `back` characters before the first of the unread symbols. -/
inductive Fault
  | malformed (cause : Malformation) (unread : List PatternSymbol) (back : Nat)
  | repetitionTooLarge
  | conflictingCharsets
  | digits (fault : Decimal.DigitFault)

abbrev Reader := Reading PatternSymbol Fault

namespace Reader

/-! ## Faults -/

def failAt {α : Type} (cause : Malformation) (unread : List PatternSymbol) : Reader α :=
  throw (.malformed cause unread 0)

def failBack {α : Type} (cause : Malformation) (back : Nat) : Reader α := do
  throw (.malformed cause (← get) back)

def fail {α : Type} (cause : Malformation) : Reader α := failBack cause 0

/-! ## Single symbols -/

def peek? : Reader (Option PatternSymbol) := Reading.peek?

/-- Reads a symbol.  What follows it is looked at right away, so a lone backslash is a fault as soon
as the symbol before it is read. -/
def next? : Reader (Option PatternSymbol) := do
  match ← get with
  | [] => return none
  | symbol :: unread =>
    if unread = [loneBackslash] then failAt .loneBackslash unread
    else
      set unread
      return some symbol

def accept (char : Char) : Reader Bool := do
  if (← peek?) = some (plain char) then
    let _ ← next?
    return true
  else return false

/-! ## Runs of symbols -/

def takeWhile (isMember : Char → Bool) : Nat → Reader (List Char)
  | 0 => return []
  | limit + 1 => do
    match ← peek? with
    | some (plain char) =>
      if isMember char then
        let _ ← next?
        return char :: (← takeWhile isMember limit)
      else return []
    | _ => return []

def takeAll (isMember : Char → Bool) : Reader (List Char) := do
  takeWhile isMember (← get).length

def takeUntil (close : Char) : Nat → Reader (Option (List Char))
  | 0 => return none
  | limit + 1 => do
    match ← next? with
    | none => return none
    | some symbol =>
      if symbol = plain close then return some []
      else return (← takeUntil close limit).map (symbol.text ++ ·)

def readName (close : Char) (kind : NameKind) : Reader String := do
  let start ← get
  match ← takeUntil close (start.length + 1) with
  | some [] => failBack (.missingName kind) 1
  | some name => return String.ofList name
  | none =>
    if start.isEmpty then fail (.missingName kind)
    else failBack (.unterminatedName close) (extent start)

/-! ## Repeating a step -/

def untilDone {State Result : Type} (step : State → Reader (State ⊕ Result)) (state : State) :
    Reader Result :=
  Reading.untilDone (.malformed .unexpectedEnd [] 0) step state

end Reader

end ShaderTokens.Pattern
