import ShaderTokens.Unicode.Blank
import ShaderTokens.Unicode.LetterCase
import ShaderTokens.Unicode.Word

/-!
# Patterns

The words of a lexicon are patterns: regular expressions with look-around, lazy, possessive and
atomic forms.  This file holds their abstract form, the characters they range over and the widths
of the texts they match.
-/

namespace ShaderTokens

/-! ## Sets of characters -/

inductive CharClass
  | digit
  | blank
  | word
  deriving DecidableEq, Repr

namespace CharClass

def contains (charClass : CharClass) (asciiOnly : Bool) (char : Char) : Bool :=
  match charClass with
  | digit => if asciiOnly then char.isDigit else Unicode.isDecimalDigit char
  | blank =>
    if asciiOnly then char = ' ' || (9 ≤ char.toNat && char.toNat ≤ 13) else Unicode.isBlank char
  | word =>
    if asciiOnly then char = '_' || char.isAlphanum else Unicode.isWord char

end CharClass

/-- A member of a bracketed set.  Code points are numbers, since a set may name code points that are
not characters. -/
inductive SetItem
  | range (first last : Nat)
  | charClass (charClass : CharClass) (negated : Bool)
  deriving DecidableEq, Repr

structure CharSet where
  items : List SetItem
  negated : Bool := false
  ignoreCase : Bool := false
  asciiOnly : Bool := false
  deriving DecidableEq, Repr

namespace CharSet

/-- The code points that stand for the same character. -/
def spellings (set : CharSet) (char : Char) : List Nat :=
  if !set.ignoreCase then [char.toNat]
  else if set.asciiOnly then [char.toNat, char.toLower.toNat, char.toUpper.toNat]
  else Unicode.variants char.toNat

def holds (set : CharSet) (char : Char) : SetItem → Bool
  | .range first last => (set.spellings char).any fun code => first ≤ code && code ≤ last
  | .charClass charClass negated => charClass.contains set.asciiOnly char != negated

def contains (set : CharSet) (char : Char) : Bool :=
  set.items.any (set.holds char) != set.negated

end CharSet

/-! ## Patterns -/

inductive Anchor
  | textStart
  | textEnd
  | lineStart
  | lineEnd
  | finalLineEnd
  | wordBoundary (asciiOnly : Bool)
  | insideWord (asciiOnly : Bool)
  deriving DecidableEq, Repr

/-- How many rounds a repetition tries first, and whether it may give rounds back. -/
inductive Greed
  | greedy
  | lazy
  | possessive
  deriving DecidableEq, Repr

inductive Direction
  | ahead
  | behind
  deriving DecidableEq, Repr

/-- The least and the greatest length of a match; `none` when there is no greatest. -/
structure Width where
  least : Nat
  greatest : Option Nat
  deriving DecidableEq, Repr

inductive Pattern
  | empty
  | oneOf (set : CharSet)
  | anchor (anchor : Anchor)
  | both (first second : Pattern)
  | either (first second : Pattern)
  | repeated (body : Pattern) (least : Nat) (greatest : Option Nat) (greed : Greed)
  | atomic (body : Pattern)
  | look (direction : Direction) (negated : Bool) (body : Pattern)
  | capture (body : Pattern)
  | reference (width : Width)
  | conditional (whenSet whenUnset : Pattern)
  deriving DecidableEq, Repr

namespace Pattern

def sequence (parts : List Pattern) : Pattern :=
  parts.foldr both empty

def alternatives : List Pattern → Pattern
  | [] => empty
  | [only] => only
  | first :: second :: others => either first (alternatives (second :: others))

end Pattern

/-! ## Widths -/

namespace Width

def zero : Width := ⟨0, some 0⟩

def add (first second : Width) : Width :=
  ⟨first.least + second.least,
    first.greatest.bind fun upper => second.greatest.map fun other => upper + other⟩

def join (first second : Width) : Width :=
  ⟨min first.least second.least,
    first.greatest.bind fun upper => second.greatest.map fun other => max upper other⟩

def rounds (width : Width) (least : Nat) (greatest : Option Nat) : Width :=
  let upper :=
    match greatest, width.greatest with
    | some 0, _ | _, some 0 => some 0
    | some count, some upper => some (count * upper)
    | _, none | none, _ => none
  ⟨least * width.least, upper⟩

end Width

namespace Pattern

def width : Pattern → Width
  | empty | anchor _ | look .. => .zero
  | oneOf _ => ⟨1, some 1⟩
  | both first second => first.width.add second.width
  | either first second => first.width.join second.width
  | repeated body least greatest _ => body.width.rounds least greatest
  | atomic body | capture body => body.width
  | reference width => width
  | conditional whenSet whenUnset => whenSet.width.join whenUnset.width

end Pattern

end ShaderTokens
