import ShaderTokens.Text.Line

/-!
# Runs of character names

Neighbouring characters often have names with a common start.  A run is a stretch of code points
whose names are given by their endings.
-/

namespace ShaderTokens.Unicode

/-- The endings stand in rows, separated by commas; a code point without a name has an empty one. -/
structure NameRun where
  first : Nat
  start : String
  rows : List String

def behind? (start : String) (text : List Char) : Option (List Char) :=
  if start.toList.isPrefixOf text then some (text.drop start.length) else none

namespace NameRun

def endings (run : NameRun) : List (List Char) := run.rows.flatMap (Text.between ',' ·.toList)

def find? (run : NameRun) (name : List Char) : Option Nat := do
  let ending ← behind? run.start name
  if ending.isEmpty then none else return run.first + (← run.endings.idxOf? ending)

end NameRun

end ShaderTokens.Unicode
