import ShaderTokens.Lexicon.Words
import ShaderTokens.Pattern.Match
import ShaderTokens.Pattern.Read

/-!
# Lexicons

A lexicon says which lexemes belong to which category.  Each category has a list of words, which are
patterns, and one matcher made of all of them: the words as alternatives, between word boundaries.
-/

namespace ShaderTokens

/-! ## Errors -/

inductive WordFault
  | empty
  | captures
  | malformed (cause : Malformation) (place : Option PatternPlace)
  deriving DecidableEq, Repr

namespace WordFault

def message : WordFault → String
  | empty => "empty pattern"
  | captures => "capture groups are not supported; use (?:...)"
  | malformed cause place => (PatternError.malformed cause place).message

end WordFault

/-- Why a lexicon could not be built.  The last three are limits of patterns rather than mistakes in
one. -/
inductive LexiconError
  | emptyCategory (category : Category)
  | invalidPattern (pattern : String) (category : Category) (fault : WordFault)
  | repetitionTooLarge
  | conflictingCharsets
  | digits (fault : Decimal.DigitFault)
  deriving DecidableEq, Repr

namespace LexiconError

def message : LexiconError → String
  | emptyCategory category =>
    "cannot extend " ++ category.name ++ ": category has no base table"
  | invalidPattern pattern category fault =>
    "invalid " ++ category.name ++ " pattern " ++ Text.quoted pattern ++ ": " ++ fault.message
  | repetitionTooLarge => PatternError.message .repetitionTooLarge
  | conflictingCharsets => PatternError.message .conflictingCharsets
  | digits fault => PatternError.message (.digits fault)

def isLimit : LexiconError → Bool
  | emptyCategory _ | invalidPattern .. => false
  | repetitionTooLarge | conflictingCharsets | digits _ => true

def ofPattern (pattern : String) (category : Category) : PatternError → LexiconError
  | .malformed cause place => invalidPattern pattern category (.malformed cause place)
  | .repetitionTooLarge => repetitionTooLarge
  | .conflictingCharsets => conflictingCharsets
  | .digits fault => digits fault

@[simp] theorem isLimit_ofPattern (pattern : String) (category : Category) (error : PatternError) :
    (ofPattern pattern category error).isLimit = error.isLimit := by
  cases error <;> rfl

end LexiconError

/-! ## Joining words -/

/-- Longer words come first, and words of one length in the order of their characters. -/
def joinsBefore (first second : String) : Bool :=
  second.length < first.length || (first.length == second.length && decide (first ≤ second))

def joinOrder (words : List String) : List String :=
  words.eraseDups.mergeSort joinsBefore

/-- The pattern text of a category.  That of no words at all matches nothing. -/
def joinWords (words : List String) : String :=
  match joinOrder words with
  | [] => "(?!)"
  | ordered =>
    "\\b(?:" ++ String.intercalate "|" (ordered.map fun word => "(?:" ++ word ++ ")") ++ ")\\b"

/-! ## Tables -/

/-- Refuses words that are not patterns of their own, and words with capture groups, whose numbers
would change in a longer pattern. -/
def checkWord (category : Category) (word : String) : Except LexiconError Unit :=
  if word.isEmpty then .error (.invalidPattern word category .empty)
  else
    match Pattern.read word with
    | .error error => .error (.ofPattern word category error)
    | .ok expression =>
      if expression.captures = 0 then .ok ()
      else .error (.invalidPattern word category .captures)

structure LexiconTable where
  category : Category
  words : List String
  matcher : Pattern

namespace LexiconTable

def source (table : LexiconTable) : String := joinWords table.words

def build (category : Category) (words : List String) : Except LexiconError LexiconTable := do
  words.forM (checkWord category)
  let source := joinWords words
  match Pattern.read source with
  | .error error => throw (.ofPattern source category error)
  | .ok expression => return ⟨category, words, expression.pattern⟩

end LexiconTable

namespace WordTable

/-- A table from pairs in which a later pair replaces an earlier one of the same category. -/
def ofPairs (pairs : List (Category × List String)) : WordTable :=
  pairs.foldl (fun table pair =>
    if table.any (·.1 = pair.1) then
      table.map fun entry => if entry.1 = pair.1 then pair else entry
    else table ++ [pair]) []

def append (table : WordTable) (category : Category) (words : List String) : WordTable :=
  table.map fun entry => if entry.1 = category then (entry.1, entry.2 ++ words) else entry

def extend (table extensions : WordTable) : Except LexiconError WordTable :=
  extensions.foldlM (fun table extension =>
    if extension.2.isEmpty then .ok table
    else if table.any (·.1 = extension.1) then .ok (table.append extension.1 extension.2)
    else .error (.emptyCategory extension.1)) table

end WordTable

/-! ## Lexicons -/

structure LexiconEntry where
  pattern : String
  category : Category
  deriving DecidableEq, Repr

structure Lexicon where
  tables : List LexiconTable

namespace Lexicon

def ofWords (words : WordTable) : Except LexiconError Lexicon := do
  let tables ← words.mapM fun entry => LexiconTable.build entry.1 entry.2
  return ⟨tables⟩

def build (base extensions : WordTable) : Except LexiconError Lexicon := do
  ofWords (← base.extend extensions)

def table? (lexicon : Lexicon) (category : Category) : Option LexiconTable :=
  lexicon.tables.find? (·.category = category)

def categories (lexicon : Lexicon) : List Category :=
  lexicon.tables.map LexiconTable.category

def words (lexicon : Lexicon) (category : Category) : List String :=
  ((lexicon.table? category).map LexiconTable.words).getD []

def entries (lexicon : Lexicon) : List LexiconEntry :=
  lexicon.tables.flatMap fun table => table.words.map fun word => ⟨word, table.category⟩

def table (lexicon : Lexicon) (category : Category) : Except LexiconError LexiconTable :=
  match lexicon.table? category with
  | some table => .ok table
  | none => .error (.emptyCategory category)

def hasWord (lexicon : Lexicon) (category : Category) (lexeme : String) : Bool :=
  (lexicon.table? category).any fun table => table.matcher.matchesWhole lexeme.toList

end Lexicon

end ShaderTokens
