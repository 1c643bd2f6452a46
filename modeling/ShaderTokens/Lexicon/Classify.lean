import ShaderTokens.Lexicon.Basic

/-!
# Classifying lexemes

The categories are consulted in a fixed order and the first that has the lexeme as a word decides.
Directive words only count on preprocessor lines, where they come before everything else.
-/

namespace ShaderTokens

def preprocessorPrecedence : List Category :=
  [.preprocessorDirective, .preprocessorOperator]

def precedence : List Category :=
  [.type, .deprecatedQualifier, .reservedKeyword, .qualifier, .deprecatedKeyword, .keyword,
    .preprocessorBuiltin, .deprecatedBuiltin, .builtin, .deprecatedVariable]

def consulted (preprocessor : Bool) : List Category :=
  if preprocessor then preprocessorPrecedence ++ precedence else precedence

def Lexicon.classify (lexicon : Lexicon) (lexeme : String) (preprocessor : Bool) : Category :=
  ((consulted preprocessor).find? fun category => lexicon.hasWord category lexeme).getD .identifier

end ShaderTokens
