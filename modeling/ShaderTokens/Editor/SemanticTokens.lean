import ShaderTokens.Text.Line
import ShaderTokens.Token

/-!
# Semantic tokens

Editors colour source by semantic tokens: stretches of a line with a type and modifiers.  They are
sent as numbers, five for each stretch, with places relative to the stretch before.
-/

namespace ShaderTokens.Editor

/-! ## Types and modifiers -/

inductive SemanticType
  | type
  | modifier
  | keyword
  | function
  | variableName
  | macroName
  | operator
  | comment
  | string
  | number
  deriving DecidableEq, Repr

namespace SemanticType

def all : List SemanticType :=
  [type, modifier, keyword, function, variableName, macroName, operator, comment, string, number]

def name : SemanticType → String
  | type => "type"
  | modifier => "modifier"
  | keyword => "keyword"
  | function => "function"
  | variableName => "variable"
  | macroName => "macro"
  | operator => "operator"
  | comment => "comment"
  | string => "string"
  | number => "number"

def index (semanticType : SemanticType) : Nat := all.idxOf semanticType

def ofCategory? : Category → Option SemanticType
  | .type => some type
  | .qualifier | .deprecatedQualifier => some modifier
  | .keyword | .reservedKeyword | .deprecatedKeyword => some keyword
  | .builtin | .deprecatedBuiltin => some function
  | .deprecatedVariable | .identifier => some variableName
  | .preprocessorDirective | .preprocessorBuiltin => some macroName
  | .preprocessorOperator => some operator
  | .comment => some comment
  | .stringLiteral => some string
  | .numberLiteral => some number
  | .punctuation | .whitespace => none

@[simp] theorem ofCategory?_eq_none_iff (category : Category) :
    ofCategory? category = none ↔
      category = .whitespace ∨ category = .punctuation := by
  cases category <;> simp [ofCategory?]

end SemanticType

def semanticModifiers : List String := ["deprecated"]

/-! ## Stretches -/

/-- A coloured stretch of a line, counted from line 0 and character 0.  Bit 0 of the modifiers marks
deprecated words. -/
structure Stretch where
  line : Int
  character : Int
  length : Nat
  type : Nat
  modifiers : Nat
  deriving DecidableEq, Repr

/-- The stretches of consecutive lines of a token; carriage returns at the end of a line are not
coloured, and lines with nothing else are left out. -/
def stretchesFrom (semanticType : SemanticType) (modifiers : Nat) (line character : Int) :
    List (List Char) → List Stretch
  | [] => []
  | piece :: pieces =>
    let visible := Text.dropTrailing '\r' piece
    let others := stretchesFrom semanticType modifiers (line + 1) 0 pieces
    if visible.isEmpty then others
    else ⟨line, character, visible.length, semanticType.index, modifiers⟩ :: others

def stretches (token : Token) : List Stretch :=
  match SemanticType.ofCategory? token.category with
  | none => []
  | some semanticType =>
    stretchesFrom semanticType (if token.category.isDeprecated then 1 else 0)
      (token.line - 1) (token.column - 1) (Text.between '\n' token.text.toList)

/-! ## Relative places -/

/-- Five numbers for a stretch that follows another: the lines between them, the characters between
them if they are on one line, length, type and modifiers. -/
def relativeTo (line character : Int) (stretch : Stretch) : List Int :=
  let lineDelta := stretch.line - line
  let characterDelta :=
    if lineDelta = 0 then stretch.character - character else stretch.character
  [lineDelta, characterDelta, stretch.length, stretch.type, stretch.modifiers]

def encodeStretches (line character : Int) : List Stretch → List Int
  | [] => []
  | stretch :: others =>
    relativeTo line character stretch ++ encodeStretches stretch.line stretch.character others

def encodeTokens (tokens : List Token) : List Int :=
  encodeStretches 0 0 (tokens.flatMap stretches)

end ShaderTokens.Editor
