import ShaderTokens.Category

/-!
# Positions and tokens

Lines and columns count from 1 and offsets from 0, all in characters; only a line feed starts a new
line.
-/

namespace ShaderTokens

/-! ## Positions -/

structure Position where
  line : Int
  column : Int
  offset : Int
  deriving DecidableEq, Repr, Inhabited

namespace Position

def origin : Position := ⟨1, 1, 0⟩

def advance (position : Position) (char : Char) : Position :=
  if char = '\n' then ⟨position.line + 1, 1, position.offset + 1⟩
  else ⟨position.line, position.column + 1, position.offset + 1⟩

def after (position : Position) (text : List Char) : Position :=
  text.foldl advance position

@[simp] theorem after_nil (position : Position) : position.after [] = position := rfl

@[simp] theorem after_cons (position : Position) (char : Char) (text : List Char) :
    position.after (char :: text) = (position.advance char).after text := rfl

@[simp] theorem after_append (position : Position) (first second : List Char) :
    position.after (first ++ second) = (position.after first).after second := by
  simp [after]

end Position

/-- A stretch of source; `stop` is the position just past it. -/
structure Span where
  start : Position
  stop : Position
  deriving DecidableEq, Repr

/-! ## Tokens -/

/-- A classified slice of source.  `line` and `column` locate its first character and `endOffset`
is exclusive. -/
structure Token where
  text : String
  category : Category
  startOffset : Int
  endOffset : Int
  line : Int
  column : Int
  deriving DecidableEq, Repr

namespace Token

def start (token : Token) : Position := ⟨token.line, token.column, token.startOffset⟩

def stop (token : Token) : Position :=
  let finish := token.start.after token.text.toList
  ⟨finish.line, finish.column, token.endOffset⟩

def span (token : Token) : Span := ⟨token.start, token.stop⟩

def isWhitespace (token : Token) : Bool := token.category = .whitespace

end Token

/-! ## Identifier characters -/

def isIdentifierStart (char : Char) : Bool := char = '_' || char.isAlpha

def isIdentifierPart (char : Char) : Bool := isIdentifierStart char || char.isDigit

end ShaderTokens
