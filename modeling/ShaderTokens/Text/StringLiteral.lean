import ShaderTokens.Text.Hex
import ShaderTokens.Unicode.CharName

/-!
# Reading string literals

A string literal is a text between two single or two double quotes.  A backslash in it begins an
escape: a letter that stands for a character, a code point in octal or hexadecimal digits, the name
of a character in braces, or the end of a line, which counts for nothing.  A backslash in front of
anything else stands for itself.
-/

namespace ShaderTokens.Text.StringLiteral

def letterChar? : Char → Option Char
  | '\\' => some '\\'
  | '\'' => some '\''
  | '"' => some '"'
  | 'a' => some '\x07'
  | 'b' => some '\x08'
  | 'f' => some '\x0c'
  | 'n' => some '\n'
  | 'r' => some '\r'
  | 't' => some '\t'
  | 'v' => some '\x0b'
  | _ => none

/-- Surrogates and numbers beyond the last plane are not characters. -/
def charOfCode? (code : Nat) : Option Char :=
  if code.isValidChar then some (Char.ofNat code) else none

def isOctalDigit (char : Char) : Bool := '0' ≤ char && char ≤ '7'

/-! ## Escapes -/

/-- What an escape stands for, and the text behind it. -/
abbrev Escape := Option (List Char × List Char)

def codeEscape (code? : Option Nat) (length : Nat) (text : List Char) : Escape := do
  return ([← charOfCode? (← code?)], text.drop length)

def readHex (width : Nat) (text : List Char) : Escape :=
  let digits := text.take width
  let isNumeral := digits.length = width ∧ digits.all Hex.isDigit
  codeEscape (if isNumeral then some (Hex.decode digits) else none) width text

def readOctal (text : List Char) : Escape :=
  let digits := (text.take 3).takeWhile isOctalDigit
  codeEscape (some (Nat.ofDigitChars 8 digits 0)) digits.length text

def readName (text : List Char) : Escape :=
  let name := text.takeWhile (· ≠ '\x7d')
  if name.length < text.length then
    codeEscape (Unicode.characterNamed? (String.ofList name)) (name.length + 1) text
  else none

def readEscape : List Char → Escape
  | [] => none
  | '\r' :: '\n' :: rest | '\r' :: rest | '\n' :: rest => some ([], rest)
  | 'x' :: rest => readHex 2 rest
  | 'u' :: rest => readHex 4 rest
  | 'U' :: rest => readHex 8 rest
  | 'N' :: '\x7b' :: rest => readName rest
  | 'N' :: _ => none
  | letter :: rest =>
    match letterChar? letter with
    | some meant => some ([meant], rest)
    | none =>
      if isOctalDigit letter then readOctal (letter :: rest) else some (['\\', letter], rest)

theorem isSuffix_of_codeEscape {code? : Option Nat} {length : Nat} {text meant rest : List Char}
    (h : codeEscape code? length text = some (meant, rest)) : rest <:+ text := by
  simp only [codeEscape, bind, Option.bind_eq_some_iff, pure, Option.some.injEq,
    Prod.mk.injEq] at h
  obtain ⟨code, -, char, -, -, rfl⟩ := h
  exact List.drop_suffix length text

private theorem isSuffix_of_readEscape {text meant rest : List Char}
    (h : readEscape text = some (meant, rest)) : rest <:+ text := by
  have hbehind : ∀ {char : Char} {others : List Char}, rest <:+ others → rest <:+ char :: others :=
    fun hsuffix => hsuffix.trans (List.suffix_cons _ _)
  unfold readEscape at h
  split at h
  case h_1 => contradiction
  case h_2 | h_3 | h_4 =>
    cases h
    simp [List.suffix_cons_iff]
  case h_5 | h_6 | h_7 => exact hbehind (isSuffix_of_codeEscape h)
  case h_8 =>
    unfold readName at h
    dsimp only at h
    split at h
    · exact hbehind (hbehind (isSuffix_of_codeEscape h))
    · contradiction
  case h_9 => contradiction
  case h_10 =>
    split at h
    · cases h
      exact List.suffix_cons _ _
    · split at h
      · exact isSuffix_of_codeEscape h
      · cases h
        exact List.suffix_cons _ _

/-! ## Literals -/

def readBody (quote : Char) (text : List Char) : Option (List Char) :=
  match text with
  | [] => none
  | char :: others =>
    if char = quote then if others.isEmpty then some [] else none
    else if char = '\\' then
      match _ : readEscape others with
      | none => none
      | some (meant, rest) => (readBody quote rest).map (meant ++ ·)
    else if char = '\n' || char = '\r' then none
    else (readBody quote others).map (char :: ·)
termination_by text.length
decreasing_by
  · have hsuffix := isSuffix_of_readEscape (by assumption)
    simpa [Nat.lt_succ_iff] using hsuffix.length_le
  · simp

def read : List Char → Option (List Char)
  | [] => none
  | quote :: body => if quote = '\'' || quote = '"' then readBody quote body else none

end ShaderTokens.Text.StringLiteral
