/-!
# Token categories

What a token of shader source can be.  The first twelve categories are decided by the lexicon, the
others by the shape of the lexeme alone.
-/

namespace ShaderTokens

inductive Category
  | type
  | qualifier
  | keyword
  | reservedKeyword
  | builtin
  | deprecatedQualifier
  | deprecatedKeyword
  | deprecatedBuiltin
  | deprecatedVariable
  | preprocessorDirective
  | preprocessorBuiltin
  | preprocessorOperator
  | identifier
  | comment
  | stringLiteral
  | numberLiteral
  | punctuation
  | whitespace
  deriving DecidableEq, Repr, Inhabited

namespace Category

def all : List Category :=
  [type, qualifier, keyword, reservedKeyword, builtin, deprecatedQualifier, deprecatedKeyword,
    deprecatedBuiltin, deprecatedVariable, preprocessorDirective, preprocessorBuiltin,
    preprocessorOperator, identifier, comment, stringLiteral, numberLiteral, punctuation,
    whitespace]

def name : Category → String
  | type => "type"
  | qualifier => "qualifier"
  | keyword => "keyword"
  | reservedKeyword => "reserved-keyword"
  | builtin => "builtin"
  | deprecatedQualifier => "deprecated-qualifier"
  | deprecatedKeyword => "deprecated-keyword"
  | deprecatedBuiltin => "deprecated-builtin"
  | deprecatedVariable => "deprecated-variable"
  | preprocessorDirective => "preprocessor-directive"
  | preprocessorBuiltin => "preprocessor-builtin"
  | preprocessorOperator => "preprocessor-operator"
  | identifier => "identifier"
  | comment => "comment"
  | stringLiteral => "string-literal"
  | numberLiteral => "number-literal"
  | punctuation => "punctuation"
  | whitespace => "whitespace"

def ofName? (name : String) : Option Category :=
  all.find? fun category => category.name == name

def isDeprecated : Category → Bool
  | deprecatedQualifier | deprecatedKeyword | deprecatedBuiltin | deprecatedVariable => true
  | _ => false

end Category

end ShaderTokens
