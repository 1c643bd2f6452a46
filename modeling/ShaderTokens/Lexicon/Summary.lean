import ShaderTokens.Lexicon.Classify

/-!
# Summaries of lexicons

A short account of a lexicon for people: each category in the order of consultation, with the number
of its words and the first few of them.
-/

namespace ShaderTokens

def previewLength : Nat := 6

def LexiconTable.summary (table : LexiconTable) : String :=
  let heading :=
    "  " ++ table.category.name ++ " (" ++ toString table.words.length ++ ")\n"
  if table.words.isEmpty then heading
  else
    let preview := String.intercalate " " (table.words.take previewLength)
    let ellipsis := if previewLength < table.words.length then " ..." else ""
    heading ++ "    " ++ preview ++ ellipsis ++ "\n"

namespace Lexicon

def summary (lexicon : Lexicon) : String :=
  "Lexicon\n" ++
    String.join (((consulted true).filterMap lexicon.table?).map LexiconTable.summary)

end Lexicon

end ShaderTokens
