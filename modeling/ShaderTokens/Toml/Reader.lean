import ShaderTokens.Reading
import ShaderTokens.Toml.Error

/-!
# Reading characters of a document

What is malformed is remembered with what was still unread where it lies.
-/

namespace ShaderTokens.Toml

inductive Fault
  | malformed (cause : Cause) (unread : List Char)
  | digits (fault : Decimal.DigitFault)

abbrev Reader := Reading Char Fault

namespace Reader

def failAt {α : Type} (cause : Cause) (unread : List Char) : Reader α :=
  throw (.malformed cause unread)

def fail {α : Type} (cause : Cause) : Reader α := do
  failAt cause (← get)

def peek? : Reader (Option Char) := Reading.peek?

def skip (count : Nat) : Reader Unit := modify (·.drop count)

def accept (text : String) : Reader Bool := do
  if text.toList.isPrefixOf (← get) then
    skip text.length
    return true
  else return false

def takeAll (isMember : Char → Bool) : Reader (List Char) := do
  let unread ← get
  let taken := unread.takeWhile isMember
  skip taken.length
  return taken

/-! ## Blanks and comments -/

def isBlank (char : Char) : Bool := char = ' ' || char = '\t'

def isBlankOrFeed (char : Char) : Bool := isBlank char || char = '\n'

def skipBlanks : Reader Unit := do
  let _ ← takeAll isBlank

def isControl (char : Char) : Bool :=
  (char.toNat < 32 && char ≠ '\t') || char.toNat = 127

def before? (stop : List Char) : List Char → Option (List Char)
  | [] => if stop.isEmpty then some [] else none
  | char :: others =>
    if stop.isPrefixOf (char :: others) then some []
    else (before? stop others).map (char :: ·)

def takeLegal (isIllegal : Char → Bool) (stretch : List Char) : Reader (List Char) := do
  match stretch.find? isIllegal with
  | some char =>
    failAt (.invalidCharacter char) ((← get).dropWhile fun char => !isIllegal char)
  | none =>
    skip stretch.length
    return stretch

def takeThrough (stop : String) (isIllegal : Char → Bool) : Reader (List Char) := do
  match before? stop.toList (← get) with
  | none => failAt (.expectedText stop) []
  | some stretch =>
    let taken ← takeLegal isIllegal stretch
    skip stop.length
    return taken

def skipComment : Reader Unit := do
  if ← accept "#" then
    let unread ← get
    let _ ← takeLegal isControl (unread.takeWhile (· ≠ '\n'))

def skipGapStep (_ : Unit) : Reader (Unit ⊕ Unit) := do
  let start ← get
  let _ ← takeAll isBlankOrFeed
  skipComment
  return if (← get).length = start.length then .inr () else .inl ()

def untilDone {State Result : Type} (step : State → Reader (State ⊕ Result)) (state : State) :
    Reader Result :=
  Reading.untilDone (.malformed .invalidStatement []) step state

def skipGap : Reader Unit := untilDone skipGapStep ()

end Reader

end ShaderTokens.Toml
