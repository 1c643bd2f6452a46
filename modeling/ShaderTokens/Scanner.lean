import ShaderTokens.Diagnostic
import ShaderTokens.Lexeme.Delimited
import ShaderTokens.Lexeme.Number
import ShaderTokens.Lexicon.Classify

/-!
# Scanning

The scanner cuts source into tokens from left to right.  A token depends on the characters that are
left and on one fact about the line so far: whether it is still blank, is code, or is a preprocessor
line.  Every character belongs to exactly one token, and malformed source is scanned to the end.
-/

namespace ShaderTokens

/-! ## Lines -/

/-- What has been seen on the current line.  White space and comments leave a line blank; the `#`
that opens a preprocessor line is followed by the name of a directive. -/
inductive LineContext
  | blank
  | code
  | directiveName
  | directive
  deriving DecidableEq, Repr

namespace LineContext

def isPreprocessor : LineContext → Bool
  | directiveName | directive => true
  | blank | code => false

def afterToken : LineContext → LineContext
  | blank | code => code
  | directiveName | directive => directive

def afterGap (context : LineContext) (text : List Char) : LineContext :=
  if text.contains '\n' then blank else context

end LineContext

/-! ## Lexemes -/

structure Lexeme where
  text : List Char
  category : Category
  context : LineContext
  fault : Option Unterminated := none
  text_ne_nil : text ≠ [] := by simp

namespace Lexeme

def isSpace (char : Char) : Bool :=
  char = ' ' || char = '\t' || char = '\r' || char = '\n' || char = '\x0c' || char = '\x0b'

def whitespace (context : LineContext) (first : Char) (others : List Char) : Lexeme :=
  let text := first :: others.takeWhile isSpace
  { text, category := .whitespace, context := context.afterGap text }

def lineComment (context : LineContext) (body : List Char) : Lexeme :=
  { text := '/' :: '/' :: lineCommentBody body, category := .comment, context }

def blockComment (context : LineContext) (body : List Char) : Lexeme :=
  let delimited := blockCommentBody body
  let text := '/' :: '*' :: delimited.text
  { text
    category := .comment
    context := context.afterGap text
    fault := if delimited.isClosed then none else some .blockComment }

def stringLiteral (context : LineContext) (body : List Char) : Lexeme :=
  let delimited := stringBody body
  { text := '"' :: delimited.text
    category := .stringLiteral
    context := context.afterToken
    fault := if delimited.isClosed then none else some .stringLiteral }

/-- A `#` opens a preprocessor line if the line is blank so far.  On that line `#` and `##` are
operators; elsewhere a `#` is punctuation. -/
def hash (context : LineContext) (others : List Char) : Lexeme :=
  match context with
  | .blank => { text := ['#'], category := .punctuation, context := .directiveName }
  | .code => { text := ['#'], category := .punctuation, context := .code }
  | .directiveName | .directive =>
    { text := '#' :: Number.suffix (· = '#') others
      category := .preprocessorOperator
      context := .directive }

def wordCategory (lexicon : Lexicon) (context : LineContext) (word : String) : Category :=
  match context with
  | .blank | .code => lexicon.classify word false
  | .directiveName => lexicon.classify word true
  | .directive =>
    if lexicon.hasWord .preprocessorOperator word then .preprocessorOperator
    else lexicon.classify word false

def word (lexicon : Lexicon) (context : LineContext) (first : Char) (others : List Char) :
    Lexeme :=
  let text := first :: others.takeWhile isIdentifierPart
  { text
    category := wordCategory lexicon context (String.ofList text)
    context := context.afterToken }

def punctuation (context : LineContext) (char : Char) : Lexeme :=
  { text := [char], category := .punctuation, context := context.afterToken }

def numberOrPunctuation (context : LineContext) (first : Char) (others : List Char) : Lexeme :=
  match number? (first :: others) with
  | some (digit :: digits) =>
    { text := digit :: digits, category := .numberLiteral, context := context.afterToken }
  | _ => punctuation context first

def read (lexicon : Lexicon) (context : LineContext) (first : Char) (others : List Char) :
    Lexeme :=
  if isSpace first then whitespace context first others
  else
    match first, others with
    | '/', '/' :: body => lineComment context body
    | '/', '*' :: body => blockComment context body
    | '"', body => stringLiteral context body
    | '#', _ => hash context others
    | _, _ =>
      if isIdentifierStart first then word lexicon context first others
      else numberOrPunctuation context first others

end Lexeme

/-! ## The scanner -/

structure ScannedToken where
  token : Token
  stop : Position
  fault : Option Unterminated
  deriving DecidableEq, Repr

structure Scanner where
  lexicon : Lexicon
  context : LineContext
  position : Position
  remaining : List Char

namespace Scanner

def ofSource (lexicon : Lexicon) (source : String) : Scanner :=
  ⟨lexicon, .blank, .origin, source.toList⟩

def scanned (start : Position) (lexeme : Lexeme) : ScannedToken :=
  { token :=
      { text := String.ofList lexeme.text
        category := lexeme.category
        startOffset := start.offset
        endOffset := (start.after lexeme.text).offset
        line := start.line
        column := start.column }
    stop := start.after lexeme.text
    fault := lexeme.fault }

def skip (scanner : Scanner) (lexeme : Lexeme) : Scanner :=
  { scanner with
    context := lexeme.context
    position := scanner.position.after lexeme.text
    remaining := scanner.remaining.drop lexeme.text.length }

def next? (scanner : Scanner) : Option (ScannedToken × Scanner) :=
  match scanner.remaining with
  | [] => none
  | first :: others =>
    let lexeme := Lexeme.read scanner.lexicon scanner.context first others
    some (scanned scanner.position lexeme, scanner.skip lexeme)

theorem length_remaining_lt {scanner following : Scanner} {token : ScannedToken}
    (h : scanner.next? = some (token, following)) :
    following.remaining.length < scanner.remaining.length := by
  unfold next? at h
  split at h
  · simp at h
  · next first others hremaining =>
    simp only [Option.some.injEq, Prod.mk.injEq] at h
    obtain ⟨-, rfl⟩ := h
    have hpositive :=
      List.length_pos_iff.mpr (Lexeme.read scanner.lexicon scanner.context first others).text_ne_nil
    simp only [skip, hremaining, List.length_drop, List.length_cons]
    omega

def toList (scanner : Scanner) : List ScannedToken :=
  match _ : scanner.next? with
  | none => []
  | some (token, following) => token :: following.toList
termination_by scanner.remaining.length
decreasing_by exact length_remaining_lt (by assumption)

def take : Nat → Scanner → List ScannedToken × Scanner
  | 0, scanner => ([], scanner)
  | count + 1, scanner =>
    match scanner.next? with
    | none => ([], scanner)
    | some (token, following) =>
      let (tokens, rest) := take count following
      (token :: tokens, rest)

end Scanner

/-- The report on a token that is not terminated: it reaches from the start of the token to where
the scanner stands. -/
def ScannedToken.diagnostic? (scanned : ScannedToken) (source filename : String) :
    Option Diagnostic :=
  scanned.fault.map fun fault =>
    ⟨fault.message, ⟨scanned.token.start, scanned.stop⟩, source, filename⟩

end ShaderTokens
