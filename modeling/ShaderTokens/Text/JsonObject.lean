import ShaderTokens.Text.Hex
import ShaderTokens.Text.Line

/-!
# Reading JSON objects

Objects whose members are strings and integers, read from a text in JSON notation.  Strings may be
escaped in every way that JSON knows; an escaped surrogate counts only as half of a pair.
-/

namespace ShaderTokens.Text

inductive JsonValue
  | string (text : String)
  | integer (value : Int)
  deriving DecidableEq, Repr

abbrev JsonObject := List (String × JsonValue)

namespace JsonObject

def isBlank (char : Char) : Bool := char = ' ' || char = '\t' || char = '\n' || char = '\r'

def skipBlanks (text : List Char) : List Char := text.dropWhile isBlank

/-! ## Strings -/

def letterUnit? : Char → Option Nat
  | '"' => some 0x22
  | '\\' => some 0x5C
  | '/' => some 0x2F
  | 'b' => some 0x08
  | 'f' => some 0x0C
  | 'n' => some 0x0A
  | 'r' => some 0x0D
  | 't' => some 0x09
  | _ => none

def hexUnit? (digits : List Char) : Option Nat :=
  if digits.all Hex.isDigit then some (Hex.decode digits) else none

/-- Control characters and backslashes cannot stand for themselves. -/
def plainUnit? (char : Char) : Option Nat :=
  if 32 ≤ char.toNat ∧ char ≠ '\\' then some char.toNat else none

def prepend (unit? : Option Nat) (others? : Option (List Nat × List Char)) :
    Option (List Nat × List Char) := do
  let unit ← unit?
  let (units, rest) ← others?
  return (unit :: units, rest)

/-- The units of a string whose opening quote has been read, and what follows its closing quote.  A
unit is a character or, escaped, one half of a surrogate pair. -/
def readUnits : List Char → Option (List Nat × List Char)
  | [] => none
  | '"' :: others => some ([], others)
  | '\\' :: 'u' :: first :: second :: third :: fourth :: others =>
    prepend (hexUnit? [first, second, third, fourth]) (readUnits others)
  | '\\' :: letter :: others => prepend (letterUnit? letter) (readUnits others)
  | char :: others => prepend (plainUnit? char) (readUnits others)

def isHighSurrogate (unit : Nat) : Bool := 0xD800 ≤ unit && unit < 0xDC00

def isLowSurrogate (unit : Nat) : Bool := 0xDC00 ≤ unit && unit < 0xE000

/-- Surrogates are joined in pairs, and refused elsewhere. -/
def joinUnits : List Nat → Option (List Char)
  | [] => some []
  | unit :: units =>
    if isHighSurrogate unit then
      match units with
      | [] => none
      | low :: units =>
        if isLowSurrogate low then do
          let offset := (unit - 0xD800) * 0x400 + (low - 0xDC00)
          return Char.ofNat (0x10000 + offset) :: (← joinUnits units)
        else none
    else if isLowSurrogate unit then none
    else do return Char.ofNat unit :: (← joinUnits units)

def readString : List Char → Option (String × List Char)
  | '"' :: body => do
    let (units, rest) ← readUnits body
    return (String.ofList (← joinUnits units), rest)
  | _ => none

/-! ## Integers -/

def readNatural (text : List Char) : Option (Nat × List Char) :=
  let digits := text.takeWhile Char.isDigit
  if digits.isEmpty || (digits.head? = some '0' && digits ≠ ['0']) then none
  else some (Nat.ofDigitChars 10 digits 0, text.drop digits.length)

def readInteger : List Char → Option (Int × List Char)
  | '-' :: digits => do
    let (value, rest) ← readNatural digits
    return (-(value : Int), rest)
  | text => do
    let (value, rest) ← readNatural text
    return ((value : Int), rest)

/-! ## Objects -/

def readValue (text : List Char) : Option (JsonValue × List Char) :=
  if text.head? = some '"' then do
    let (value, rest) ← readString text
    return (.string value, rest)
  else do
    let (value, rest) ← readInteger text
    return (.integer value, rest)

def readMember (text : List Char) : Option ((String × JsonValue) × List Char) := do
  let (name, behindName) ← readString (skipBlanks text)
  match skipBlanks behindName with
  | ':' :: behindColon => do
    let (value, rest) ← readValue (skipBlanks behindColon)
    return ((name, value), skipBlanks rest)
  | _ => none

/-! ## What is left -/

section Rests

variable {text rest : List Char}

theorem skipBlanks_isSuffix (text : List Char) : skipBlanks text <:+ text :=
  List.dropWhile_suffix _

theorem eq_some_of_prepend {unit? : Option Nat} {others? : Option (List Nat × List Char)}
    {units : List Nat} (h : prepend unit? others? = some (units, rest)) :
    ∃ others, others? = some (others, rest) := by
  simp only [prepend, bind, Option.bind_eq_some_iff] at h
  obtain ⟨unit, -, ⟨others, rest⟩, hothers, hunits⟩ := h
  cases hunits
  exact ⟨others, hothers⟩

private theorem isSuffix_of_readUnits {units : List Nat} (h : readUnits text = some (units, rest)) :
    rest <:+ text := by
  fun_induction readUnits text generalizing units with
  | case1 => contradiction
  | case2 others =>
      cases h
      exact List.suffix_cons _ _
  | case3 first second third fourth others ih =>
      obtain ⟨units, hothers⟩ := eq_some_of_prepend h
      exact (ih hothers).trans ⟨['\\', 'u', first, second, third, fourth], rfl⟩
  | case4 letter others _ ih =>
      obtain ⟨units, hothers⟩ := eq_some_of_prepend h
      exact (ih hothers).trans ⟨['\\', letter], rfl⟩
  | case5 char others _ _ _ ih =>
      obtain ⟨units, hothers⟩ := eq_some_of_prepend h
      exact (ih hothers).trans (List.suffix_cons _ _)

theorem isSuffix_of_readString {value : String} (h : readString text = some (value, rest)) :
    rest <:+ text := by
  unfold readString at h
  split at h
  · next body =>
    simp only [bind, Option.bind_eq_some_iff] at h
    obtain ⟨⟨units, behind⟩, hunits, chars, -, hvalue⟩ := h
    cases hvalue
    exact (isSuffix_of_readUnits hunits).trans (List.suffix_cons _ _)
  · contradiction

theorem isSuffix_of_readNatural {value : Nat} (h : readNatural text = some (value, rest)) :
    rest <:+ text := by
  simp only [readNatural] at h
  split at h
  · contradiction
  · cases h
    exact List.drop_suffix _ _

private theorem isSuffix_of_readInteger {value : Int} (h : readInteger text = some (value, rest)) :
    rest <:+ text := by
  unfold readInteger at h
  split at h
  all_goals
    simp only [bind, Option.bind_eq_some_iff] at h
    obtain ⟨⟨value, behind⟩, hnatural, hvalue⟩ := h
    cases hvalue
  · exact (isSuffix_of_readNatural hnatural).trans (List.suffix_cons _ _)
  · exact isSuffix_of_readNatural hnatural

private theorem isSuffix_of_readValue {value : JsonValue}
    (h : readValue text = some (value, rest)) :
    rest <:+ text := by
  unfold readValue at h
  split at h
  all_goals
    simp only [bind, Option.bind_eq_some_iff] at h
    obtain ⟨⟨value, behind⟩, hread, hvalue⟩ := h
    cases hvalue
  · exact isSuffix_of_readString hread
  · exact isSuffix_of_readInteger hread

private theorem length_lt_of_readMember {member : String × JsonValue}
    (h : readMember text = some (member, rest)) : rest.length < text.length := by
  simp only [readMember, bind, Option.bind_eq_some_iff] at h
  obtain ⟨⟨name, behindName⟩, hname, h⟩ := h
  split at h
  · next behindColon hcolon =>
    simp only [Option.bind_eq_some_iff] at h
    obtain ⟨⟨value, behindValue⟩, hvalue, hmember⟩ := h
    cases hmember
    have hfirst := (isSuffix_of_readString hname).trans (skipBlanks_isSuffix text)
    have hsecond := (skipBlanks_isSuffix behindName).trans hfirst
    have hthird := (isSuffix_of_readValue hvalue).trans (skipBlanks_isSuffix behindColon)
    have hlast := (skipBlanks_isSuffix behindValue).trans hthird
    rw [hcolon] at hsecond
    exact Nat.lt_of_le_of_lt hlast.length_le (Nat.lt_of_succ_le hsecond.length_le)
  · contradiction

end Rests

/-! ## Members -/

def readMembers (text : List Char) : Option JsonObject :=
  match _ : readMember text with
  | some (member, ',' :: others) => do return member :: (← readMembers others)
  | some (member, '\x7d' :: others) => if (skipBlanks others).isEmpty then some [member] else none
  | _ => none
termination_by text.length
decreasing_by
  have hshorter := length_lt_of_readMember (by assumption)
  rw [List.length_cons] at hshorter
  omega

def read (text : List Char) : Option JsonObject :=
  match skipBlanks text with
  | '\x7b' :: others =>
    match skipBlanks others with
    | '\x7d' :: others => if (skipBlanks others).isEmpty then some [] else none
    | others => readMembers others
  | _ => none

def readLines (text : List Char) : Option (List JsonObject) :=
  let lines := between '\n' text
  if lines.getLast? = some [] then lines.dropLast.mapM read else none

def string? (object : JsonObject) (name : String) : Option String :=
  match object.lookup name with
  | some (.string text) => some text
  | _ => none

def integer? (object : JsonObject) (name : String) : Option Int :=
  match object.lookup name with
  | some (.integer value) => some value
  | _ => none

end JsonObject

end ShaderTokens.Text
