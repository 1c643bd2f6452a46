import ShaderTokens.Text.Hex

/-!
# UTF-8

Decoding goes byte by byte.  Between characters a lead byte says how many bytes follow and which
values the first of them may have: this excludes overlong forms, surrogates and codes above
U+10FFFF.  All further bytes are continuation bytes.
-/

namespace ShaderTokens.Text.Utf8

/-! ## Errors -/

inductive Fault
  | invalidStart
  | invalidContinuation
  | unexpectedEnd
  deriving DecidableEq, Repr

def Fault.message : Fault → String
  | invalidStart => "invalid start byte"
  | invalidContinuation => "invalid continuation byte"
  | unexpectedEnd => "unexpected end of data"

/-- A fault in the sequence of `length` bytes that starts with `lead` at position `start`. -/
structure Error where
  fault : Fault
  lead : UInt8
  start : Nat
  length : Nat
  deriving DecidableEq, Repr

def Error.message (error : Error) : String :=
  let place :=
    if error.length = 1 then
      "byte 0x" ++ String.ofList (Hex.encode 2 error.lead.toNat) ++ " in position " ++
        toString error.start
    else
      "bytes in position " ++ toString error.start ++ "-" ++
        toString (error.start + error.length - 1)
  "'utf-8' codec can't decode " ++ place ++ ": " ++ error.fault.message

/-! ## Decoding -/

/-- A character that has begun: its lead byte and where that is, the code so far, how many bytes are
owed, and the bounds of the next one. -/
structure Pending where
  lead : UInt8
  start : Nat
  code : Nat
  owed : Nat
  least : UInt8 := 0x80
  greatest : UInt8 := 0xBF
  deriving DecidableEq, Repr

namespace Pending

def ofLead? (lead : UInt8) (start : Nat) : Option Pending :=
  let value := lead.toNat
  if 0xC2 ≤ value && value ≤ 0xDF then some { lead, start, code := value - 0xC0, owed := 1 }
  else if value = 0xE0 then some { lead, start, code := 0, owed := 2, least := 0xA0 }
  else if value = 0xED then some { lead, start, code := 0xD, owed := 2, greatest := 0x9F }
  else if 0xE1 ≤ value && value ≤ 0xEF then
    some { lead, start, code := value - 0xE0, owed := 2 }
  else if value = 0xF0 then some { lead, start, code := 0, owed := 3, least := 0x90 }
  else if value = 0xF4 then some { lead, start, code := 4, owed := 3, greatest := 0x8F }
  else if 0xF1 ≤ value && value ≤ 0xF3 then
    some { lead, start, code := value - 0xF0, owed := 3 }
  else none

def accepts (pending : Pending) (byte : UInt8) : Bool :=
  pending.least ≤ byte && byte ≤ pending.greatest

def codeWith (pending : Pending) (byte : UInt8) : Nat :=
  pending.code * 64 + (byte.toNat - 0x80)

def continueWith (pending : Pending) (byte : UInt8) : Pending :=
  { lead := pending.lead
    start := pending.start
    code := pending.codeWith byte
    owed := pending.owed - 1 }

def error (pending : Pending) (fault : Fault) (position : Nat) : Error :=
  ⟨fault, pending.lead, pending.start, position - pending.start⟩

end Pending

/-- Decodes the bytes from a position on; `decoded` holds the characters before, last first. -/
def decodeFrom (decoded : List Char) (position : Nat) :
    Option Pending → List UInt8 → Except Error (List Char)
  | none, [] => .ok decoded.reverse
  | some pending, [] => .error (pending.error .unexpectedEnd position)
  | none, byte :: bytes =>
    if byte < 0x80 then
      decodeFrom (Char.ofNat byte.toNat :: decoded) (position + 1) none bytes
    else
      match Pending.ofLead? byte position with
      | some pending => decodeFrom decoded (position + 1) (some pending) bytes
      | none => .error ⟨.invalidStart, byte, position, 1⟩
  | some pending, byte :: bytes =>
    if pending.accepts byte then
      if pending.owed = 1 then
        decodeFrom (Char.ofNat (pending.codeWith byte) :: decoded) (position + 1) none bytes
      else decodeFrom decoded (position + 1) (some (pending.continueWith byte)) bytes
    else .error (pending.error .invalidContinuation position)

def decode (bytes : List UInt8) : Except Error (List Char) := decodeFrom [] 0 none bytes

def encode (text : String) : List UInt8 := text.toUTF8.toList

def size (text : String) : Nat := text.utf8ByteSize

end ShaderTokens.Text.Utf8
