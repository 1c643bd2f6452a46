import ShaderTokens.Text.Hex

/-!
# JSON strings

Strings in JSON notation with ASCII characters only.  A character outside the basic plane is written
as the pair of its UTF-16 surrogates.
-/

namespace ShaderTokens.Text.JsonString

def escapeUnit (unit : Nat) : List Char := '\\' :: 'u' :: Hex.encode 4 unit

def escape (char : Char) : List Char :=
  let code := char.toNat
  if char = '"' then ['\\', '"']
  else if char = '\\' then ['\\', '\\']
  else if char = '\n' then ['\\', 'n']
  else if char = '\r' then ['\\', 'r']
  else if char = '\t' then ['\\', 't']
  else if char = '\x08' then ['\\', 'b']
  else if char = '\x0c' then ['\\', 'f']
  else if 32 ≤ code ∧ code < 127 then [char]
  else if code < 0x10000 then escapeUnit code
  else
    let offset := code - 0x10000
    escapeUnit (0xD800 + offset / 0x400) ++ escapeUnit (0xDC00 + offset % 0x400)

def encode (text : List Char) : List Char :=
  '"' :: text.flatMap escape ++ ['"']

end ShaderTokens.Text.JsonString
