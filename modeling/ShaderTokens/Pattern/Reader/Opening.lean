import ShaderTokens.Pattern.Reader.Flags
import ShaderTokens.Pattern.Reader.Groups
import ShaderTokens.Unicode.Blank
import ShaderTokens.Unicode.Identifier
import ShaderTokens.Unicode.Numeral

/-!
# Openings of groups

What follows an opening parenthesis says what the group does.  Comments, flags for the whole pattern
and named references are complete with their opening; all other forms enclose a pattern.
-/

namespace ShaderTokens.Pattern

def groupLimit : Nat := 2147483647

inductive Enclosure
  | plain
  | capture (group : Nat)
  | atomic
  | look (direction : Direction) (negated : Bool)
  | conditional

inductive Opening
  | comment
  | wholeFlags (flags : List Flag)
  | reference (reference : Pattern)
  | encloses (enclosure : Enclosure) (turnedOn turnedOff : List Flag)
  | encloseIf (group : Nat) (unread : List PatternSymbol)

namespace Reader

/-! ## Names and numbers of groups -/

def digitsValue? (digits : List Char) (value : Nat) : Option Nat :=
  match digits with
  | [] => some value
  | '_' :: digit :: others => do
    let digitValue ← Unicode.decimalDigitValue? digit
    digitsValue? others (value * 10 + digitValue)
  | digit :: others => do
    let digitValue ← Unicode.decimalDigitValue? digit
    digitsValue? others (value * 10 + digitValue)

/-- A whole number with an optional sign and blanks around it, and no more digits than are
converted. -/
def wholeNumber? (text : List Char) : Option Int :=
  let trimmed := ((text.dropWhile Unicode.isBlank).reverse.dropWhile Unicode.isBlank).reverse
  let unsigned := fun digits : List Char =>
    match digits with
    | [] => none
    | '_' :: _ => none
    | _ =>
      if Decimal.digitLimit < (digits.filter (· ≠ '_')).length then none else digitsValue? digits 0
  match trimmed with
  | '-' :: digits => (unsigned digits).map fun value => -(value : Int)
  | '+' :: digits => (unsigned digits).map fun value => (value : Int)
  | digits => (unsigned digits).map fun value => (value : Int)

def readGroupName (close : Char) : Reader String := do
  let name ← readName close .group
  if Unicode.isIdentifier name then return name
  else failBack (.badGroupName name) (name.length + 1)

def readNamedReference (groups : Groups) (lookbehindLimit : Option Nat) : Reader Pattern := do
  let name ← readGroupName ')'
  match groups.named? name with
  | none => failBack (.unknownGroupName name) (name.length + 1)
  | some group => groups.reference lookbehindLimit group (name.length + 1)

def readCondition (groups : Groups) (lookbehindLimit : Option Nat) : Reader Opening := do
  let unread ← get
  let name ← readName ')' .group
  let back := name.length + 1
  let group ←
    if Unicode.isIdentifier name then
      match groups.named? name with
      | none => failBack (.unknownGroupName name) back
      | some group => pure group
    else
      match wholeNumber? name.toList with
      | some (.ofNat 0) => failBack .badGroupNumber back
      | some (.ofNat group) =>
        if groupLimit ≤ group then failBack (.invalidGroupReference group) back else pure group
      | _ => failBack (.badGroupName name) back
  groups.checkLookbehind lookbehindLimit group
  return .encloseIf group unread

/-! ## Openings -/

def readComment (opening : List PatternSymbol) : Reader Opening := do
  match ← takeUntil ')' ((← get).length + 1) with
  | some _ => return .comment
  | none => failAt .unterminatedComment opening

def look (direction : Direction) (negated : Bool) : Opening :=
  .encloses (.look direction negated) [] []

def readLookbehind : Reader Opening := do
  match ← next? with
  | none => fail .unexpectedEnd
  | some symbol =>
    if symbol = .plain '=' then return look .behind false
    else if symbol = .plain '!' then return look .behind true
    else failBack (.unknownExtension (String.ofList ('<' :: symbol.text))) (symbol.text.length + 2)

def readNamed (groups : Groups) (lookbehindLimit : Option Nat) : Reader (Opening × Groups) := do
  if ← accept '<' then
    let name ← readGroupName '>'
    match groups.named? name with
    | some earlier =>
      failBack (.groupRedefined name groups.opened earlier) (name.length + 1)
    | none => return (.encloses (.capture groups.opened) [] [], groups.openNamed name)
  else if ← accept '=' then
    return (.reference (← readNamedReference groups lookbehindLimit), groups)
  else
    match ← next? with
    | none => fail .unexpectedEnd
    | some symbol =>
      failBack (.unknownExtension (String.ofList ('P' :: symbol.text))) (symbol.text.length + 2)

def readExtension (opening : List PatternSymbol) (groups : Groups)
    (lookbehindLimit : Option Nat) : Reader (Opening × Groups) := do
  match ← next? with
  | none => fail .unexpectedEnd
  | some (.plain 'P') => readNamed groups lookbehindLimit
  | some (.plain ':') => return (.encloses .plain [] [], groups)
  | some (.plain '#') => return (← readComment opening, groups)
  | some (.plain '=') => return (look .ahead false, groups)
  | some (.plain '!') => return (look .ahead true, groups)
  | some (.plain '<') => return (← readLookbehind, groups)
  | some (.plain '>') => return (.encloses .atomic [] [], groups)
  | some (.plain '(') => return (← readCondition groups lookbehindLimit, groups)
  | some symbol =>
    let unknown : Reader (Opening × Groups) :=
      failBack (.unknownExtension (String.ofList symbol.text)) (symbol.text.length + 1)
    match symbol with
    | .plain char =>
      if char = '-' || (Flag.ofChar? char).isSome then
        match ← readFlags char with
        | .whole flags => return (.wholeFlags flags, groups)
        | .group turnedOn turnedOff => return (.encloses .plain turnedOn turnedOff, groups)
      else unknown
    | _ => unknown

def readOpening (opening : List PatternSymbol) (groups : Groups)
    (lookbehindLimit : Option Nat) : Reader (Opening × Groups) := do
  if ← accept '?' then readExtension opening groups lookbehindLimit
  else return (.encloses (.capture groups.opened) [] [], groups.openUnnamed)

end Reader

end ShaderTokens.Pattern
