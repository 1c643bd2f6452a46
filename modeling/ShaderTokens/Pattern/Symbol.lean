/-!
# Symbols of pattern text

A backslash and the character after it form one symbol; every other character is a symbol of its
own.  Only at the very end can a backslash stand alone.
-/

namespace ShaderTokens

inductive PatternSymbol
  | plain (char : Char)
  | escaped (char : Char)
  | loneBackslash
  deriving DecidableEq, Repr

namespace PatternSymbol

def ofText : List Char → List PatternSymbol
  | [] => []
  | ['\\'] => [loneBackslash]
  | '\\' :: char :: others => escaped char :: ofText others
  | char :: others => plain char :: ofText others

def text : PatternSymbol → List Char
  | plain char => [char]
  | escaped char => ['\\', char]
  | loneBackslash => ['\\']

def extent (symbols : List PatternSymbol) : Nat :=
  symbols.foldl (fun total symbol => total + symbol.text.length) 0

end PatternSymbol

end ShaderTokens
