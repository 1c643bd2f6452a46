import ShaderTokens.Text.Hex
import ShaderTokens.Unicode.NameTable.Aliases
import ShaderTokens.Unicode.NameTable.Alphabets
import ShaderTokens.Unicode.NameTable.Antiquity
import ShaderTokens.Unicode.NameTable.EastAsia
import ShaderTokens.Unicode.NameTable.Notation
import ShaderTokens.Unicode.NameTable.Pictographs
import ShaderTokens.Unicode.NameTable.Syllabaries
import ShaderTokens.Unicode.NameTable.Symbols
import ShaderTokens.Unicode.RangeTable

/-!
# Character names

The characters of Unicode 14.0 by their names and aliases.  Most names are listed; those of Hangul
syllables are put together from the names of their letters, and those of ideographs and of a few
other scripts end in the code point.  Letter case does not count, except in the names of syllables
and of unified ideographs, which are in capitals.
-/

namespace ShaderTokens.Unicode

/-! ## Listed names -/

def nameRuns : List NameRun :=
  alphabetRuns ++ syllabaryRuns ++ symbolRuns ++ eastAsianRuns ++ ancientRuns ++ notationRuns ++
    pictographRuns ++ aliasRuns

/-! ## Hangul syllables -/

def hangulInitials : List String :=
  ["G", "GG", "N", "D", "DD", "R", "M", "B", "BB", "S", "SS", "", "J", "JJ", "C", "K", "T", "P",
    "H"]

def hangulVowels : List String :=
  ["A", "AE", "YA", "YAE", "EO", "E", "YEO", "YE", "O", "WA", "WAE", "OE", "YO", "U", "WEO", "WE",
    "WI", "YU", "EU", "YI", "I"]

def hangulFinals : List String :=
  ["", "G", "GG", "GS", "N", "NJ", "NH", "D", "L", "LG", "LM", "LB", "LS", "LT", "LP", "LH", "M",
    "B", "BS", "S", "SS", "NG", "J", "C", "K", "T", "P", "H"]

def isHangulConsonant (char : Char) : Bool := !"AEIOUWY".toList.contains char

/-- Syllables are numbered by their initial, then their vowel, then their final consonants. -/
def syllableNamed? (name : List Char) : Option Nat := do
  let letters ← behind? "HANGUL SYLLABLE " name
  let initial := letters.takeWhile isHangulConsonant
  let others := letters.drop initial.length
  let vowel := others.takeWhile fun char => !isHangulConsonant char
  let final := others.drop vowel.length
  let initial ← hangulInitials.idxOf? (String.ofList initial)
  let vowel ← hangulVowels.idxOf? (String.ofList vowel)
  let final ← hangulFinals.idxOf? (String.ofList final)
  return 0xAC00 + (initial * hangulVowels.length + vowel) * hangulFinals.length + final

/-! ## Numbered names -/

def ideographRanges : RangeTable where
  ranges :=
    #[(0x3400, 0x4DBF), (0x4E00, 0x9FFF), (0x20000, 0x2A6DF), (0x2A700, 0x2B738),
      (0x2B740, 0x2B81D), (0x2B820, 0x2CEA1), (0x2CEB0, 0x2EBE0), (0x30000, 0x3134A)]

def isCapitalDigit (char : Char) : Bool := char.isDigit || ('A' ≤ char && char ≤ 'F')

/-- The number of a unified ideograph has four or five digits, perhaps with a zero in front. -/
def ideographNamed? (name : List Char) : Option Nat := do
  let digits ← behind? "CJK UNIFIED IDEOGRAPH-" name
  let code := Text.Hex.decode digits
  if (digits.length = 4 || digits.length = 5) && digits.all isCapitalDigit &&
      ideographRanges.contains code then
    return code
  else none

def numberedScripts : List (String × RangeTable) :=
  [("CJK COMPATIBILITY IDEOGRAPH-", ⟨#[(0xF900, 0xFA6D), (0xFA70, 0xFAD9), (0x2F800, 0x2FA1D)]⟩),
    ("KHITAN SMALL SCRIPT CHARACTER-", ⟨#[(0x18B00, 0x18CD5)]⟩),
    ("NUSHU CHARACTER-", ⟨#[(0x1B170, 0x1B2FB)]⟩)]

def numberedNamed? (name : List Char) : Option Nat :=
  numberedScripts.findSome? fun (start, ranges) => do
    let digits ← behind? start name
    let code := Text.Hex.decode digits
    let width := if code < 0x10000 then 4 else 5
    if ranges.contains code && Text.Hex.encode width code == digits.map Char.toLower then
      return code
    else none

/-! ## All names -/

def characterNamed? (name : String) : Option Nat :=
  let capitals := name.toList.map Char.toUpper
  syllableNamed? name.toList <|> ideographNamed? name.toList <|> numberedNamed? capitals <|>
    nameRuns.findSome? fun run => run.find? capitals

end ShaderTokens.Unicode
