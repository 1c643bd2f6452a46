import ShaderTokens.Scanner

/-!
# Scanning in rounds

A machine that scans with an explicit mode.  A comment or a string is entered in one round, which
yields nothing, and read in the round after it; what the machine remembers of a line stands in its
mode, the modes that it goes back to and two marks.  Nothing keeps it from reading past the end,
from going back when there is nowhere to go, or from missing a number where one should start: these
are faults.
-/

namespace ShaderTokens

inductive ScanMode
  | plain
  | preprocessorLine
  | lineComment
  | blockComment
  | string
  deriving DecidableEq, Repr

inductive MachineFault
  | readPastEnd
  | nothingToReturnTo
  | missingNumber
  deriving DecidableEq, Repr

/-- The modes to go back to are listed with the latest first.  `isLineStart` says that the line
holds nothing but white space and comments so far, `awaitsDirective` that the next word names a
directive. -/
structure ScanMachine where
  lexicon : Lexicon
  position : Position
  remaining : List Char
  mode : ScanMode
  outer : List ScanMode
  isLineStart : Bool
  awaitsDirective : Bool

namespace ScanMachine

def ofSource (lexicon : Lexicon) (source : String) : ScanMachine :=
  { lexicon
    position := .origin
    remaining := source.toList
    mode := .plain
    outer := []
    isLineStart := true
    awaitsDirective := false }

/-! ## Reading on -/

def advance (machine : ScanMachine) : Except MachineFault ScanMachine :=
  match machine.remaining with
  | [] => .error .readPastEnd
  | char :: others =>
    .ok { machine with position := machine.position.advance char, remaining := others }

theorem length_remaining_of_advance {machine following : ScanMachine}
    (h : machine.advance = .ok following) :
    following.remaining.length < machine.remaining.length := by
  unfold advance at h
  split at h
  · cases h
  · next char others hremaining =>
    cases h
    simp [hremaining]

def advanceBy : Nat → ScanMachine → Except MachineFault ScanMachine
  | 0, machine => .ok machine
  | count + 1, machine => do advanceBy count (← machine.advance)

def advanceWhile (goesOn : List Char → Bool) (machine : ScanMachine) :
    Except MachineFault ScanMachine :=
  if goesOn machine.remaining then
    match _ : machine.advance with
    | .ok following => following.advanceWhile goesOn
    | .error fault => .error fault
  else .ok machine
termination_by machine.remaining.length
decreasing_by exact length_remaining_of_advance (by assumption)

/-- The carriage return in front of a line feed is left outside. -/
def isInLineComment : List Char → Bool
  | [] => false
  | '\n' :: _ => false
  | '\r' :: '\n' :: _ => false
  | _ => true

def isInBlockComment : List Char → Bool
  | [] => false
  | '*' :: '/' :: _ => false
  | _ => true

def advanceThroughComment (machine : ScanMachine) : Except MachineFault (Bool × ScanMachine) := do
  let machine ← machine.advanceWhile isInBlockComment
  if machine.remaining.isEmpty then return (false, machine)
  else return (true, ← machine.advanceBy 2)

def advanceThroughQuote (machine : ScanMachine) : Except MachineFault (Bool × ScanMachine) :=
  match machine.remaining with
  | [] => .ok (false, machine)
  | char :: _ =>
    match _ : machine.advance with
    | .error fault => .error fault
    | .ok following =>
      if char = '\\' && !following.remaining.isEmpty then
        match _ : following.advance with
        | .error fault => .error fault
        | .ok escaped => escaped.advanceThroughQuote
      else if char = '"' then .ok (true, following)
      else following.advanceThroughQuote
termination_by machine.remaining.length
decreasing_by
  · have hfirst := length_remaining_of_advance ‹machine.advance = _›
    have hsecond := length_remaining_of_advance ‹following.advance = _›
    omega
  · exact length_remaining_of_advance (by assumption)

/-! ## Modes -/

def enter (machine : ScanMachine) (mode : ScanMode) : ScanMachine :=
  { machine with mode, outer := machine.mode :: machine.outer }

def goBack (machine : ScanMachine) : Except MachineFault ScanMachine :=
  match machine.outer with
  | [] => .error .nothingToReturnTo
  | mode :: outer => .ok { machine with mode, outer }

def pastLineStart (machine : ScanMachine) : ScanMachine := { machine with isLineStart := false }

def pastDirective (machine : ScanMachine) : ScanMachine :=
  { machine with awaitsDirective := false }

def endLine (machine : ScanMachine) : Except MachineFault ScanMachine :=
  let machine := { machine with isLineStart := true, awaitsDirective := false }
  if machine.mode = .preprocessorLine then machine.goBack else .ok machine

def endLineIn (machine : ScanMachine) (text : List Char) : Except MachineFault ScanMachine :=
  if text.contains '\n' then machine.endLine else .ok machine

/-! ## Tokens -/

def textSince (machine start : ScanMachine) : List Char :=
  start.remaining.take (start.remaining.length - machine.remaining.length)

def tokenSince (machine start : ScanMachine) (category : Category)
    (fault : Option Unterminated := none) : ScannedToken :=
  { token :=
      { text := String.ofList (machine.textSince start)
        category
        startOffset := start.position.offset
        endOffset := machine.position.offset
        line := start.position.line
        column := start.position.column }
    stop := machine.position
    fault }

def yielding (result : Except MachineFault (ScannedToken × ScanMachine)) :
    Except MachineFault (Option ScannedToken × ScanMachine) :=
  result.map fun (token, machine) => (some token, machine)

/-! ## Outside comments and strings -/

def readWhitespace (start : ScanMachine) : Except MachineFault (ScannedToken × ScanMachine) := do
  let machine ← start.advanceWhile (·.head?.any Lexeme.isSpace)
  let following ← machine.endLineIn (machine.textSince start)
  return (following.tokenSince start .whitespace, following)

def openDirective (machine : ScanMachine) : ScanMachine :=
  { machine.enter .preprocessorLine with isLineStart := false, awaitsDirective := true }

/-- The category of a `#` that has been read, and what is to be read with it: on a preprocessor line
a second `#` makes one operator with the first. -/
def readBehindHash (machine : ScanMachine) : Except MachineFault (Category × ScanMachine) :=
  if machine.isLineStart && machine.mode = .plain then .ok (.punctuation, machine.openDirective)
  else
    let machine := machine.pastLineStart.pastDirective
    if machine.mode = .preprocessorLine then
      if machine.remaining.head? = some '#' then machine.advance.map (.preprocessorOperator, ·)
      else .ok (.preprocessorOperator, machine)
    else .ok (.punctuation, machine)

def readHash (start : ScanMachine) : Except MachineFault (ScannedToken × ScanMachine) := do
  let machine ← start.advance
  let (category, following) ← machine.readBehindHash
  return (following.tokenSince start category, following)

def wordCategory (machine : ScanMachine) (word : String) : Category :=
  if machine.awaitsDirective then machine.lexicon.classify word true
  else if machine.mode = .preprocessorLine &&
      machine.lexicon.hasWord .preprocessorOperator word then
    .preprocessorOperator
  else machine.lexicon.classify word false

def readWord (start : ScanMachine) : Except MachineFault (ScannedToken × ScanMachine) := do
  let machine ← start.advanceWhile (·.head?.any isIdentifierPart)
  let category := machine.wordCategory (String.ofList (machine.textSince start))
  return (machine.tokenSince start category, machine.pastDirective)

def readNumber (start : ScanMachine) : Except MachineFault (ScannedToken × ScanMachine) :=
  match Lexeme.number? start.remaining with
  | none => .error .missingNumber
  | some number => do
    let machine ← start.advanceBy number.length
    return (machine.tokenSince start .numberLiteral, machine)

def readPunctuation (start : ScanMachine) : Except MachineFault (ScannedToken × ScanMachine) := do
  let machine ← start.advance
  return (machine.tokenSince start .punctuation, machine)

/-- Where nothing is ahead, that counts as white space. -/
def readOutside (machine : ScanMachine) :
    Except MachineFault (Option ScannedToken × ScanMachine) :=
  let ahead := machine.remaining[0]?
  let next := machine.remaining[1]?
  if ahead.all Lexeme.isSpace then yielding machine.readWhitespace
  else if ahead = some '/' && next = some '/' then .ok (none, machine.enter .lineComment)
  else if ahead = some '/' && next = some '*' then .ok (none, machine.enter .blockComment)
  else if ahead = some '"' then .ok (none, machine.pastDirective.enter .string)
  else if ahead = some '#' then yielding machine.readHash
  else
    let machine := machine.pastLineStart
    if ahead.any isIdentifierStart then yielding machine.readWord
    else
      let machine := machine.pastDirective
      if ahead.any Char.isDigit || ahead = some '.' && next.any Char.isDigit then
        yielding machine.readNumber
      else yielding machine.readPunctuation

/-! ## Comments and strings -/

def readLineComment (start : ScanMachine) : Except MachineFault (ScannedToken × ScanMachine) := do
  let machine ← start.advanceWhile isInLineComment
  let following ← machine.goBack
  return (following.tokenSince start .comment, following)

def readBlockComment (start : ScanMachine) :
    Except MachineFault (ScannedToken × ScanMachine) := do
  let opened ← start.advanceBy 2
  let (isClosed, closed) ← opened.advanceThroughComment
  let machine ← closed.goBack
  let fault := if isClosed then none else some .blockComment
  let following ← machine.endLineIn (machine.textSince start)
  return (following.tokenSince start .comment fault, following)

def readString (start : ScanMachine) : Except MachineFault (ScannedToken × ScanMachine) := do
  let opened ← start.pastLineStart.advance
  let (isClosed, closed) ← opened.advanceThroughQuote
  let following ← closed.goBack
  let fault := if isClosed then none else some .stringLiteral
  return (following.tokenSince start .stringLiteral fault, following)

/-! ## Rounds -/

def round (machine : ScanMachine) : Except MachineFault (Option ScannedToken × ScanMachine) :=
  match machine.mode with
  | .plain | .preprocessorLine => machine.readOutside
  | .lineComment => yielding machine.readLineComment
  | .blockComment => yielding machine.readBlockComment
  | .string => yielding machine.readString

def run : Nat → ScanMachine → Except MachineFault (List ScannedToken × ScanMachine)
  | 0, machine => .ok ([], machine)
  | count + 1, machine =>
    if machine.remaining.isEmpty then .ok ([], machine)
    else do
      let (token, following) ← machine.round
      let (tokens, last) ← following.run count
      return (token.toList ++ tokens, last)

end ScanMachine

end ShaderTokens
