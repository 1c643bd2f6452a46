import ShaderTokens.Text.Hex
import ShaderTokens.Unicode.Printable

/-!
# Quoted text

Text shown between quotes with everything invisible written as an escape.  Single quotes are used
unless the text has a single quote and no double quote, so at most one kind of quote needs a
backslash.
-/

namespace ShaderTokens.Text.Quoted

def quoteFor (text : List Char) : Char :=
  if text.contains '\'' && !text.contains '"' then '"' else '\''

/-- A code point as `\xhh`, `\uhhhh` or `\Uhhhhhhhh`, whichever is the shortest that holds it. -/
def escapeCode (code : Nat) : List Char :=
  if code < 0x100 then '\\' :: 'x' :: Hex.encode 2 code
  else if code < 0x10000 then '\\' :: 'u' :: Hex.encode 4 code
  else '\\' :: 'U' :: Hex.encode 8 code

def escape (quote char : Char) : List Char :=
  if char = quote || char = '\\' then ['\\', char]
  else if char = '\n' then ['\\', 'n']
  else if char = '\r' then ['\\', 'r']
  else if char = '\t' then ['\\', 't']
  else if Unicode.isPrintable char then [char]
  else escapeCode char.toNat

def encode (text : List Char) : List Char :=
  let quote := quoteFor text
  quote :: text.flatMap (escape quote) ++ [quote]

end Quoted

def quoted (text : String) : String := String.ofList (Quoted.encode text.toList)

end ShaderTokens.Text
