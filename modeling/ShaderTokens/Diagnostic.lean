import ShaderTokens.Text.Line
import ShaderTokens.Token

/-!
# Diagnostics

What the scanner has to say about malformed source, and how it is shown: the line where the
construct opens, with carets from its first character to the end of the line.
-/

namespace ShaderTokens

inductive Unterminated
  | blockComment
  | stringLiteral
  deriving DecidableEq, Repr

def Unterminated.message : Unterminated → String
  | blockComment => "unterminated block comment"
  | stringLiteral => "unterminated string literal"

structure Diagnostic where
  message : String
  span : Span
  source : String
  filename : String
  deriving DecidableEq, Repr

namespace Diagnostic

def position (diagnostic : Diagnostic) : Position := diagnostic.span.start

/-- The line that a diagnostic starts on, without its line terminator; nothing if the source has no
such line. -/
def sourceLine (diagnostic : Diagnostic) : List Char :=
  let number := diagnostic.position.line
  if number < 1 then []
  else
    let lines := Text.lines diagnostic.source.toList
    Text.withoutTerminator ((lines[(number - 1).toNat]?).getD [])

def spaces (count : Nat) : String := String.ofList (List.replicate count ' ')

def format (diagnostic : Diagnostic) (filename : String) : String :=
  let line := diagnostic.sourceLine
  let column := diagnostic.position.column
  let number := toString diagnostic.position.line
  let margin := spaces (number.length + 1)
  let caretCount := (max 1 (line.length - column + 1)).toNat
  let carets := String.ofList (List.replicate caretCount '^')
  "warning: " ++ diagnostic.message ++ "\n" ++
    margin ++ "--> " ++ filename ++ ":" ++ number ++ ":" ++ toString column ++ "\n" ++
    margin ++ "|\n" ++
    number ++ " | " ++ String.ofList line ++ "\n" ++
    margin ++ "| " ++ spaces (column - 1).toNat ++ carets

end Diagnostic

end ShaderTokens
