/-!
# Comments and strings

The texts of comments and strings after their opening delimiters.  Block comments and strings end
with a closing delimiter; without one they reach to the end of the source.
-/

namespace ShaderTokens.Lexeme

/-- The rest of a line comment: up to a line feed, or the carriage return in front of one. -/
def lineCommentBody : List Char → List Char
  | [] => []
  | '\n' :: _ => []
  | '\r' :: '\n' :: _ => []
  | char :: others => char :: lineCommentBody others

structure Delimited where
  text : List Char
  isClosed : Bool
  deriving DecidableEq, Repr

def Delimited.cons (char : Char) (others : Delimited) : Delimited :=
  { others with text := char :: others.text }

def blockCommentBody : List Char → Delimited
  | [] => ⟨[], false⟩
  | '*' :: '/' :: _ => ⟨['*', '/'], true⟩
  | char :: others => (blockCommentBody others).cons char

/-- The rest of a string, through the first quote that no backslash escapes. -/
def stringBody : List Char → Delimited
  | [] => ⟨[], false⟩
  | '"' :: _ => ⟨['"'], true⟩
  | '\\' :: char :: others => ((stringBody others).cons char).cons '\\'
  | char :: others => (stringBody others).cons char

end ShaderTokens.Lexeme
