import ShaderTokens.Pattern.Reader.Opening
import ShaderTokens.Pattern.Reader.Quantifier
import ShaderTokens.Pattern.Reader.Set

/-!
# Reading patterns

A pattern is read in one pass from left to right.  Every open group is a frame that holds its
finished branches and the items of the branch being read; closing the group turns its frame into one
item of the frame around it.  Checks that concern the pattern as a whole come last.
-/

namespace ShaderTokens

namespace Pattern

/-! ## Frames -/

inductive ItemKind
  | anchor
  | repetition
  | other
  deriving DecidableEq

/-- A part of a branch.  A quantifier applies to the last item, unless that is an anchor or already
repeated. -/
structure Item where
  pattern : Pattern
  kind : ItemKind

/-- A group being read; `branches` and `items` have the latest first. -/
structure Frame where
  enclosure : Enclosure
  opening : List PatternSymbol
  mode : Mode
  lookbehindLimit : Option Nat
  branches : List Pattern
  items : List Item

namespace Frame

def outermost : Frame := ⟨.plain, [], {}, none, [], []⟩

def addItem (frame : Frame) (pattern : Pattern) (kind : ItemKind) : Frame :=
  { frame with items := ⟨pattern, kind⟩ :: frame.items }

def branch (frame : Frame) : Pattern :=
  sequence (frame.items.reverse.map Item.pattern)

def nextBranch (frame : Frame) : Frame :=
  { frame with branches := frame.branch :: frame.branches, items := [] }

def allBranches (frame : Frame) : List Pattern :=
  (frame.branch :: frame.branches).reverse

def pattern (frame : Frame) : Pattern :=
  match frame.enclosure, frame.allBranches with
  | .plain, branches => alternatives branches
  | .capture _, branches => .capture (alternatives branches)
  | .atomic, branches => .atomic (alternatives branches)
  | .look direction negated, branches => .look direction negated (alternatives branches)
  | .conditional, [whenSet, whenUnset] => .conditional whenSet whenUnset
  | .conditional, branches => .conditional (alternatives branches) .empty

def enclose (frame : Frame) (groups : Groups) (enclosure : Enclosure)
    (opening : List PatternSymbol) (mode : Mode) : Frame :=
  let lookbehindLimit := match frame.lookbehindLimit, enclosure with
    | none, .look .behind _ => some groups.opened
    | limit, _ => limit
  ⟨enclosure, opening, mode, lookbehindLimit, [], []⟩

def charSet (frame : Frame) (items : List SetItem) (negated : Bool) : Pattern :=
  .oneOf ⟨items, negated, frame.mode.ignoreCase, frame.mode.asciiOnly⟩

def literal (frame : Frame) (code : Nat) : Pattern :=
  frame.charSet [.range code code] false

def anyChar (frame : Frame) : Pattern :=
  frame.charSet (if frame.mode.dotAll then [] else [.range 10 10]) true

def startAnchor (frame : Frame) : Anchor :=
  if frame.mode.multiLine then .lineStart else .textStart

def endAnchor (frame : Frame) : Anchor :=
  if frame.mode.multiLine then .lineEnd else .finalLineEnd

end Frame

/-! ## The pass -/

structure Progress where
  frame : Frame := .outermost
  outer : List Frame := []
  groups : Groups := {}
  conditions : List (Nat × List PatternSymbol) := []
  wholeFlags : List Flag := []

namespace Progress

def setFrame (progress : Progress) (frame : Frame) : Progress := { progress with frame }

def addItem (progress : Progress) (pattern : Pattern) (kind : ItemKind) : Progress :=
  progress.setFrame (progress.frame.addItem pattern kind)

def isAtStart (progress : Progress) : Bool :=
  progress.outer.isEmpty && progress.frame.branches.isEmpty && progress.frame.items.isEmpty

end Progress

namespace Reader

def readEscape (progress : Progress) (char : Char) : Reader Progress := do
  let frame := progress.frame
  match anchorEscape? frame.mode.asciiOnly char, classEscape? char, controlEscape? char with
  | some found, _, _ => return progress.addItem (.anchor found) .anchor
  | none, some (.charClass charClass negated), _ =>
    return progress.addItem (frame.charSet [.charClass charClass negated] false) .other
  | none, _, some code => return progress.addItem (frame.literal code) .other
  | none, _, none =>
    if char = '0' then return progress.addItem (frame.literal (← readOctalEscape char)) .other
    else if char.isDigit then
      match ← readNumericEscape progress.groups frame.lookbehindLimit char with
      | .inl code => return progress.addItem (frame.literal code) .other
      | .inr backward => return progress.addItem backward .other
    else return progress.addItem (frame.literal (← readCommonEscape char)) .other

/-- Applies a quantifier to the last item; `here` is where the quantifier stands. -/
def applyQuantifier (progress : Progress) (here : List PatternSymbol) (quantifier : Quantifier) :
    Reader Progress := do
  match progress.frame.items with
  | [] => failAt .nothingToRepeat here
  | item :: items =>
    match item.kind with
    | .anchor => failAt .nothingToRepeat here
    | .repetition => failAt .repeatedRepeat here
    | .other =>
      let greed ← readGreed
      let pattern := .repeated item.pattern quantifier.least quantifier.greatest greed
      return progress.setFrame { progress.frame with items := ⟨pattern, .repetition⟩ :: items }

def openGroup (progress : Progress) (here : List PatternSymbol) : Reader Progress := do
  let frame := progress.frame
  let (opening, groups) ← readOpening here progress.groups frame.lookbehindLimit
  let progress := { progress with groups }
  match opening with
  | .comment => return progress
  | .reference backward => return progress.addItem backward .other
  | .wholeFlags flags =>
    if progress.isAtStart then
      return { progress with
        frame := { frame with mode := frame.mode.change flags [] }
        wholeFlags := progress.wholeFlags ++ flags }
    else failAt .flagsNotAtStart here
  | .encloses enclosure turnedOn turnedOff =>
    let mode := frame.mode.change turnedOn turnedOff
    return { progress with
      frame := frame.enclose groups enclosure here mode
      outer := frame :: progress.outer }
  | .encloseIf group unread =>
    return { progress with
      frame := frame.enclose groups .conditional here frame.mode
      outer := frame :: progress.outer
      conditions := progress.conditions ++ [(group, unread)] }

def closeGroup (progress : Progress) (parent : Frame) (outer : List Frame) : Progress :=
  let pattern := progress.frame.pattern
  let groups := match progress.frame.enclosure with
    | .capture group => progress.groups.close group pattern.width
    | _ => progress.groups
  { progress with frame := parent.addItem pattern .other, outer, groups }

def isPatternBlank (char : Char) : Bool :=
  char = ' ' || (9 ≤ char.toNat && char.toNat ≤ 13)

def readItem (progress : Progress) (here : List PatternSymbol) (char : Char) :
    Reader Progress := do
  let frame := progress.frame
  if frame.mode.verbose && isPatternBlank char then return progress
  else if frame.mode.verbose && char = '#' then
    let _ ← takeUntil '\n' ((← get).length + 1)
    return progress
  else
    match char with
    | '[' =>
      let (items, negated) ← readSet here
      return progress.addItem (frame.charSet items negated) .other
    | '(' => openGroup progress here
    | '.' => return progress.addItem frame.anyChar .other
    | '^' => return progress.addItem (.anchor frame.startAnchor) .anchor
    | '$' => return progress.addItem (.anchor frame.endAnchor) .anchor
    | '*' | '+' | '?' | '\x7b' =>
      match ← readQuantifier char with
      | some quantifier => applyQuantifier progress here quantifier
      | none => return progress.addItem (frame.literal char.toNat) .other
    | _ => return progress.addItem (frame.literal char.toNat) .other

def readStep (progress : Progress) : Reader (Progress ⊕ Progress) := do
  let here ← get
  match here.head?, progress.outer with
  | none, [] => return .inr progress
  | none, _ :: _ => failAt .unterminatedGroup progress.frame.opening
  | some (.plain ')'), [] => return .inr progress
  | some (.plain ')'), parent :: outer =>
    let _ ← next?
    return .inl (closeGroup progress parent outer)
  | some (.plain '|'), _ =>
    if progress.frame.enclosure matches .conditional && !progress.frame.branches.isEmpty then
      fail .tooManyBranches
    else
      let _ ← next?
      return .inl (progress.setFrame progress.frame.nextBranch)
  | some symbol, _ =>
    let _ ← next?
    match symbol with
    | .plain char => return .inl (← readItem progress here char)
    | .escaped char => return .inl (← readEscape progress char)
    | .loneBackslash => failAt .loneBackslash here

end Reader

/-! ## Checks of the whole pattern -/

def lookbehindLimit : Nat := 4294967295

/-- The first part of the pattern that cannot be run: a look-behind whose texts differ in length or
are too long, or a repetition where repetition is forbidden. -/
def defect? (repeatsForbidden : Bool) : Pattern → Option Malformation
  | empty | oneOf _ | anchor _ | reference _ => none
  | both first second | either first second | conditional first second =>
    first.defect? repeatsForbidden <|> second.defect? repeatsForbidden
  | repeated body _ _ greed =>
    if repeatsForbidden then some (.repeatInTemplate greed) else body.defect? repeatsForbidden
  | atomic body | capture body | look .ahead _ body => body.defect? repeatsForbidden
  | look .behind _ body =>
    if lookbehindLimit < body.width.least then some .lookbehindTooFar
    else if body.width.greatest ≠ some body.width.least then some .lookbehindWidth
    else body.defect? repeatsForbidden

structure Expression where
  pattern : Pattern
  captures : Nat

namespace Reader

def readWhole : Reader Progress := do
  let progress ← untilDone readStep {}
  if progress.wholeFlags.contains .ascii && progress.wholeFlags.contains .unicode then
    throw .conflictingCharsets
  if !(← get).isEmpty then fail .unbalancedParenthesis
  match progress.conditions.find? fun condition => progress.groups.opened ≤ condition.1 with
  | some (group, unread) => failAt (.invalidGroupReference group) unread
  | none => return progress

end Reader

def Fault.error (text : List Char) : Fault → PatternError
  | .malformed cause unread back =>
    .malformed cause (some (.ofOffset text (text.length - PatternSymbol.extent unread - back)))
  | .repetitionTooLarge => .repetitionTooLarge
  | .conflictingCharsets => .conflictingCharsets
  | .digits fault => .digits fault

def readSymbols (symbols : List PatternSymbol) : Except Fault Progress :=
  if symbols = [.loneBackslash] then .error (.malformed .loneBackslash symbols 0)
  else (Reader.readWhole.run symbols).map Prod.fst

def read (text : String) : Except PatternError Expression :=
  match readSymbols (PatternSymbol.ofText text.toList) with
  | .error fault => .error (fault.error text.toList)
  | .ok progress =>
    let pattern := progress.frame.pattern
    match pattern.defect? (progress.wholeFlags.contains .template) with
    | some cause => .error (.malformed cause none)
    | none => .ok ⟨pattern, progress.groups.captures⟩

end Pattern

end ShaderTokens
