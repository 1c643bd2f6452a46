import ShaderTokens.Unicode.Letter
import ShaderTokens.Unicode.Numeral

/-!
# Word characters

Letters, numerals and the underscore.  Word boundaries lie between a word character and anything
else.
-/

namespace ShaderTokens.Unicode

def isWord (char : Char) : Bool :=
  char = '_' || isLetter char || isNumeral char

end ShaderTokens.Unicode
