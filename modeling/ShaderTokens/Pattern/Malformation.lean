import ShaderTokens.Decimal.DigitLimit
import ShaderTokens.Pattern.Basic
import ShaderTokens.Text.Quoted

/-!
# What is wrong with a pattern

The ways in which text fails to be a pattern, and what is said about each.
-/

namespace ShaderTokens

inductive NameKind
  | group
  | character
  deriving DecidableEq, Repr

namespace NameKind

def description : NameKind → String
  | group => "group name"
  | character => "character name"

end NameKind

inductive Malformation
  /- escapes -/
  | loneBackslash
  | badEscape (escape : String)
  | incompleteEscape (escape : String)
  | octalOutOfRange (escape : String)
  | missingBrace
  | unknownCharacter (name : String)
  /- names -/
  | missingName (kind : NameKind)
  | unterminatedName (close : Char)
  | badGroupName (name : String)
  | unknownGroupName (name : String)
  | groupRedefined (name : String) (group earlier : Nat)
  /- sets -/
  | unterminatedSet
  | badRange (first last : String)
  /- repetition -/
  | nothingToRepeat
  | repeatedRepeat
  | minimumAboveMaximum
  | repeatInTemplate (greed : Greed)
  /- groups -/
  | unexpectedEnd
  | unknownExtension (text : String)
  | unterminatedGroup
  | unterminatedComment
  | unbalancedParenthesis
  | badGroupNumber
  | invalidGroupReference (group : Nat)
  | openGroupReference
  | lookbehindGroupReference
  | tooManyBranches
  | lookbehindWidth
  | lookbehindTooFar
  /- flags -/
  | missingFlag
  | missingFlagEnd
  | missingColon
  | unknownFlag
  | localeFlag
  | incompatibleFlags
  | charsetFlagOff
  | globalFlagOn
  | globalFlagOff
  | flagOnAndOff
  | flagsNotAtStart
  deriving DecidableEq, Repr

namespace Malformation

def message : Malformation → String
  | loneBackslash => "bad escape (end of pattern)"
  | badEscape escape => "bad escape " ++ escape
  | incompleteEscape escape => "incomplete escape " ++ escape
  | octalOutOfRange escape => "octal escape value " ++ escape ++ " outside of range 0-0o377"
  | missingBrace => "missing \x7b"
  | unknownCharacter name => "undefined character name " ++ Text.quoted name
  | missingName kind => "missing " ++ kind.description
  | unterminatedName close => "missing " ++ close.toString ++ ", unterminated name"
  | badGroupName name => "bad character in group name " ++ Text.quoted name
  | unknownGroupName name => "unknown group name " ++ Text.quoted name
  | groupRedefined name group earlier =>
    "redefinition of group name " ++ Text.quoted name ++ " as group " ++ toString group ++
      "; was group " ++ toString earlier
  | unterminatedSet => "unterminated character set"
  | badRange first last => "bad character range " ++ first ++ "-" ++ last
  | nothingToRepeat => "nothing to repeat"
  | repeatedRepeat => "multiple repeat"
  | minimumAboveMaximum => "min repeat greater than max repeat"
  | repeatInTemplate .greedy => "internal: unsupported template operator MAX_REPEAT"
  | repeatInTemplate .lazy => "internal: unsupported template operator MIN_REPEAT"
  | repeatInTemplate .possessive => "internal: unsupported template operator POSSESSIVE_REPEAT"
  | unexpectedEnd => "unexpected end of pattern"
  | unknownExtension text => "unknown extension ?" ++ text
  | unterminatedGroup => "missing ), unterminated subpattern"
  | unterminatedComment => "missing ), unterminated comment"
  | unbalancedParenthesis => "unbalanced parenthesis"
  | badGroupNumber => "bad group number"
  | invalidGroupReference group => "invalid group reference " ++ toString group
  | openGroupReference => "cannot refer to an open group"
  | lookbehindGroupReference =>
    "cannot refer to group defined in the same lookbehind subpattern"
  | tooManyBranches => "conditional backref with more than two branches"
  | lookbehindWidth => "look-behind requires fixed-width pattern"
  | lookbehindTooFar => "looks too much behind"
  | missingFlag => "missing flag"
  | missingFlagEnd => "missing -, : or )"
  | missingColon => "missing :"
  | unknownFlag => "unknown flag"
  | localeFlag => "bad inline flags: cannot use 'L' flag with a str pattern"
  | incompatibleFlags => "bad inline flags: flags 'a', 'u' and 'L' are incompatible"
  | charsetFlagOff => "bad inline flags: cannot turn off flags 'a', 'u' and 'L'"
  | globalFlagOn => "bad inline flags: cannot turn on global flag"
  | globalFlagOff => "bad inline flags: cannot turn off global flag"
  | flagOnAndOff => "bad inline flags: flag turned on and off"
  | flagsNotAtStart => "global flags not at the start of the expression"

end Malformation

/-! ## Where it is wrong -/

structure PatternPlace where
  offset : Nat
  lineColumn : Option (Nat × Nat)
  deriving DecidableEq, Repr

namespace PatternPlace

def ofOffset (pattern : List Char) (offset : Nat) : PatternPlace :=
  let leading := pattern.take offset
  let lastLine := leading.reverse.takeWhile (· ≠ '\n')
  { offset
    lineColumn :=
      if pattern.contains '\n' then some (leading.count '\n' + 1, lastLine.length + 1) else none }

def description (place : PatternPlace) : String :=
  " at position " ++ toString place.offset ++
    match place.lineColumn with
    | none => ""
    | some (line, column) =>
      " (line " ++ toString line ++ ", column " ++ toString column ++ ")"

end PatternPlace

/-- Why text was not read as a pattern.  Besides malformed text there are three limits: repetition
counts stay below `2 ^ 32 - 1`, they are not converted from too many digits, and one pattern cannot
be restricted to ASCII and opened to Unicode at once. -/
inductive PatternError
  | malformed (cause : Malformation) (place : Option PatternPlace)
  | repetitionTooLarge
  | conflictingCharsets
  | digits (fault : Decimal.DigitFault)
  deriving DecidableEq, Repr

namespace PatternError

def message : PatternError → String
  | malformed cause place => cause.message ++ (place.map PatternPlace.description).getD ""
  | repetitionTooLarge => "the repetition number is too large"
  | conflictingCharsets => "ASCII and UNICODE flags are incompatible"
  | digits fault => fault.message

def isLimit : PatternError → Bool
  | malformed .. => false
  | repetitionTooLarge | conflictingCharsets | digits _ => true

end PatternError

end ShaderTokens
