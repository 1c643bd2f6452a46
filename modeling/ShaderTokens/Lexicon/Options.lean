import ShaderTokens.Lexicon.Basic

/-!
# Extending the words of HLSL

Hosts add words of their own to four of the categories.
-/

namespace ShaderTokens

structure LexiconOptions where
  additionalTypes : List String := []
  additionalQualifiers : List String := []
  additionalKeywords : List String := []
  additionalBuiltins : List String := []
  deriving DecidableEq, Repr

namespace LexiconOptions

def extensions (options : LexiconOptions) : WordTable :=
  [(.type, options.additionalTypes),
    (.qualifier, options.additionalQualifiers),
    (.keyword, options.additionalKeywords),
    (.builtin, options.additionalBuiltins)]

end LexiconOptions

namespace Lexicon

def standard : Lexicon :=
  (build hlslWords []).toOption.getD ⟨[]⟩

def ofOptions (options : LexiconOptions) : Except LexiconError Lexicon :=
  build hlslWords options.extensions

end Lexicon

end ShaderTokens
