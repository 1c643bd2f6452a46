import ShaderTokens.Pattern.Reader.Basic
import ShaderTokens.Unicode.Letter

/-!
# Flags

Flags change how a group is read and what it matches: `a` and `u` choose between ASCII and Unicode
character classes, `i` ignores letter case, `m` lets `^` and `$` match at every line, `s` lets `.`
match a line feed and `x` skips white space and comments.  `L` has no meaning in text, and `t`
forbids repetition in the whole pattern.
-/

namespace ShaderTokens.Pattern

inductive Flag
  | ascii
  | ignoreCase
  | locale
  | multiLine
  | dotAll
  | template
  | unicode
  | verbose
  deriving DecidableEq, Repr

namespace Flag

def ofChar? : Char → Option Flag
  | 'a' => some ascii
  | 'i' => some ignoreCase
  | 'L' => some locale
  | 'm' => some multiLine
  | 's' => some dotAll
  | 't' => some template
  | 'u' => some unicode
  | 'x' => some verbose
  | _ => none

def isCharset (flag : Flag) : Bool :=
  flag = ascii || flag = locale || flag = unicode

end Flag

structure Mode where
  asciiOnly : Bool := false
  ignoreCase : Bool := false
  multiLine : Bool := false
  dotAll : Bool := false
  verbose : Bool := false
  deriving DecidableEq, Repr

namespace Mode

def setFlag (mode : Mode) (isOn : Bool) : Flag → Mode
  | .ascii => { mode with asciiOnly := isOn }
  | .unicode => { mode with asciiOnly := !isOn }
  | .ignoreCase => { mode with ignoreCase := isOn }
  | .multiLine => { mode with multiLine := isOn }
  | .dotAll => { mode with dotAll := isOn }
  | .verbose => { mode with verbose := isOn }
  | .locale | .template => mode

def change (mode : Mode) (turnedOn turnedOff : List Flag) : Mode :=
  turnedOff.foldl (·.setFlag false ·) (turnedOn.foldl (·.setFlag true ·) mode)

end Mode

inductive FlagChange
  | whole (turnedOn : List Flag)
  | group (turnedOn turnedOff : List Flag)

namespace Reader

def flagOrFail (symbol : PatternSymbol) (missing : Malformation) : Reader Flag := do
  match symbol with
  | .plain char =>
    match Flag.ofChar? char with
    | some flag => return flag
    | none => failBack (if Unicode.isLetter char then .unknownFlag else missing) 1
  | other => failBack missing other.text.length

def checkTurnedOn (flags : List Flag) (flag : Flag) : Reader (List Flag) := do
  if flag = .locale then fail .localeFlag
  else if flag.isCharset && flags.any fun other => other.isCharset && other ≠ flag then
    fail .incompatibleFlags
  else return flags ++ [flag]

/-- Reads on after one flag has been read; the result is the symbol that ends the flags. -/
def readTurnedOnStep (flags : List Flag) : Reader (List Flag ⊕ (List Flag × Char)) := do
  match ← next? with
  | none => fail .missingFlagEnd
  | some symbol =>
    if symbol = .plain ')' then return .inr (flags, ')')
    else if symbol = .plain '-' then return .inr (flags, '-')
    else if symbol = .plain ':' then return .inr (flags, ':')
    else return .inl (← checkTurnedOn flags (← flagOrFail symbol .missingFlagEnd))

def checkTurnedOff (flags : List Flag) (flag : Flag) : Reader (List Flag) := do
  if flag.isCharset then fail .charsetFlagOff else return flags ++ [flag]

def readTurnedOffStep (flags : List Flag) : Reader (List Flag ⊕ List Flag) := do
  match ← next? with
  | none => fail .missingColon
  | some symbol =>
    if symbol = .plain ':' then return .inr flags
    else return .inl (← checkTurnedOff flags (← flagOrFail symbol .missingColon))

def readTurnedOff : Reader (List Flag) := do
  match ← next? with
  | none => fail .missingFlag
  | some symbol =>
    let flags ← checkTurnedOff [] (← flagOrFail symbol .missingFlag)
    untilDone readTurnedOffStep flags

def readFlags (first : Char) : Reader FlagChange := do
  let (turnedOn, close) ← match Flag.ofChar? first with
    | some flag => do untilDone readTurnedOnStep (← checkTurnedOn [] flag)
    | none => pure ([], first)
  if close = ')' then return .whole turnedOn
  if turnedOn.contains .template then failBack .globalFlagOn 1
  let turnedOff ← if close = '-' then readTurnedOff else pure []
  if turnedOff.contains .template then failBack .globalFlagOff 1
  if turnedOn.any turnedOff.contains then failBack .flagOnAndOff 1
  return .group turnedOn turnedOff

end Reader

end ShaderTokens.Pattern
