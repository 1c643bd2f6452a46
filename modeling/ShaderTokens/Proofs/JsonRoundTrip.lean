import Mathlib.Algebra.Group.Nat.Defs
import Mathlib.Data.List.Basic
import ShaderTokens.Proofs.NumberLiteral
import ShaderTokens.Text.JsonObject
import ShaderTokens.Text.JsonString

/-!
# Writing and reading JSON

Objects of strings and integers are written in printable ASCII, each on a line of its own, and what
is written can be read back.
-/

namespace ShaderTokens

namespace Text

/-! ## Hexadecimal digits -/

theorem Hex.digitValue?_digit : ∀ value < 16, Hex.digitValue? (Hex.digit value) = some value := by
  decide

theorem Hex.decode_encode {width value : Nat} (h : value < 16 ^ width) :
    Hex.decode (Hex.encode width value) = value := by
  induction width generalizing value with
  | zero =>
      obtain rfl := Nat.lt_one_iff.mp h
      rfl
  | succ width ih =>
      have hhigh : value / 16 < 16 ^ width := Nat.div_lt_of_lt_mul (by rwa [← Nat.pow_succ'])
      have hlow : Hex.digitValue? (Hex.digit (value % 16)) = some (value % 16) :=
        Hex.digitValue?_digit _ (Nat.mod_lt _ (by decide))
      have hdecode : Hex.decode (Hex.encode width (value / 16) ++ [Hex.digit (value % 16)]) =
          Hex.decode (Hex.encode width (value / 16)) * 16 + value % 16 := by
        rw [Hex.decode, Hex.decode, List.foldl_append, List.foldl_cons, List.foldl_nil, hlow]
        rfl
      rw [Hex.encode, hdecode, ih hhigh]
      omega

theorem Hex.exists_digit_of_mem_encode {width value : Nat} {char : Char}
    (h : char ∈ Hex.encode width value) : ∃ digit < 16, char = Hex.digit digit := by
  induction width generalizing value with
  | zero => simp [Hex.encode] at h
  | succ width ih =>
      rw [Hex.encode, List.mem_append, List.mem_singleton] at h
      obtain h | rfl := h
      · exact ih h
      · exact ⟨value % 16, Nat.mod_lt _ (by decide), rfl⟩

theorem Hex.isDigit_digit {value : Nat} (h : value < 16) :
    Hex.isDigit (Hex.digit value) = true := by
  rw [Hex.isDigit, Hex.digitValue?_digit value h]
  rfl

/-! ## Strings -/

namespace JsonObject

open JsonString

def IsPrintable (char : Char) : Prop := 32 ≤ char.toNat ∧ char.toNat < 127

instance (char : Char) : Decidable (IsPrintable char) :=
  inferInstanceAs (Decidable (32 ≤ char.toNat ∧ char.toNat < 127))

inductive Writes (char : Char) : List Char → Prop
  | letter {letter : Char} (hunit : letterUnit? letter = some char.toNat) :
      Writes char ['\\', letter]
  | plain (hquote : char ≠ '"') (hslash : char ≠ '\\') (hplain : IsPrintable char) :
      Writes char [char]
  | unit (hshort : char.toNat < 0x10000) : Writes char (escapeUnit char.toNat)
  | pair (hlong : 0x10000 ≤ char.toNat) :
      Writes char (escapeUnit (0xD800 + (char.toNat - 0x10000) / 0x400) ++
        escapeUnit (0xDC00 + (char.toNat - 0x10000) % 0x400))

theorem writes_escape (char : Char) : Writes char (escape char) := by
  unfold escape
  dsimp only
  split_ifs with hquote hslash hfeed hreturn htab hback hform hplain hshort
  case pos | pos | pos | pos | pos | pos | pos =>
    subst char
    exact .letter rfl
  · exact .plain hquote hslash hplain
  · exact .unit hshort
  · exact .pair (Nat.le_of_not_lt hshort)

def unitsOf (char : Char) : List Nat :=
  let code := char.toNat
  if code < 0x10000 then [code]
  else [0xD800 + (code - 0x10000) / 0x400, 0xDC00 + (code - 0x10000) % 0x400]

theorem isValidChar_toNat (char : Char) :
    char.toNat < 0xD800 ∨ (0xDFFF < char.toNat ∧ char.toNat < 0x110000) := char.valid

private theorem joinUnits_unitsOf (char : Char) (units : List Nat) :
    joinUnits (unitsOf char ++ units) = (joinUnits units).map (char :: ·) := by
  have hvalid := isValidChar_toNat char
  unfold unitsOf
  dsimp only
  split_ifs with hshort
  · have hhigh : isHighSurrogate char.toNat = false := by
      simp only [isHighSurrogate, Bool.and_eq_false_iff, decide_eq_false_iff_not]
      omega
    have hlow : isLowSurrogate char.toNat = false := by
      simp only [isLowSurrogate, Bool.and_eq_false_iff, decide_eq_false_iff_not]
      omega
    rw [List.singleton_append, joinUnits.eq_def]
    simp only [hhigh, hlow, Char.ofNat_toNat]
    cases joinUnits units <;> rfl
  · generalize hoffset : char.toNat - 0x10000 = offset
    have hhigh : isHighSurrogate (0xD800 + offset / 0x400) = true := by
      simp only [isHighSurrogate, Bool.and_eq_true, decide_eq_true_eq]
      omega
    have hlow : isLowSurrogate (0xDC00 + offset % 0x400) = true := by
      simp only [isLowSurrogate, Bool.and_eq_true, decide_eq_true_eq]
      omega
    have hchar : 0x10000 + ((0xD800 + offset / 0x400 - 0xD800) * 0x400 +
        (0xDC00 + offset % 0x400 - 0xDC00)) = char.toNat := by
      omega
    rw [List.cons_append, List.singleton_append, joinUnits, if_pos hhigh]
    dsimp only
    rw [if_pos hlow, hchar, Char.ofNat_toNat]
    cases joinUnits units <;> rfl

def behindUnits (units : List Nat) (others? : Option (List Nat × List Char)) :
    Option (List Nat × List Char) :=
  others?.map fun others => (units ++ others.1, others.2)

@[simp] theorem behindUnits_append (first second : List Nat)
    (others? : Option (List Nat × List Char)) :
    behindUnits (first ++ second) others? = behindUnits first (behindUnits second others?) := by
  simp [behindUnits, Function.comp_def]

@[simp] theorem prepend_some (unit : Nat) (others? : Option (List Nat × List Char)) :
    prepend (some unit) others? = behindUnits [unit] others? := by
  cases others? <;> rfl

section Units

variable {char letter : Char} {unit : Nat}

private theorem lt_of_letterUnit (h : letterUnit? letter = some unit) : unit < 0x10000 := by
  unfold letterUnit? at h
  split at h <;> simp_all <;> omega

private theorem readUnits_letter (hunit : letterUnit? letter = some unit) (rest : List Char) :
    readUnits (['\\', letter] ++ rest) = behindUnits [unit] (readUnits rest) := by
  have hletter : letter ≠ 'u' := by
    rintro rfl
    cases hunit
  rw [List.cons_append, List.singleton_append, readUnits, hunit, prepend_some]
  exact fun _ _ _ _ _ heq => absurd heq hletter

private theorem readUnits_plain (hquote : char ≠ '"') (hunit : plainUnit? char = some unit)
    (rest : List Char) :
    readUnits ([char] ++ rest) = behindUnits [unit] (readUnits rest) := by
  have hslash : char ≠ '\\' := by
    rintro rfl
    cases hunit
  rw [List.singleton_append, readUnits, hunit, prepend_some]
  · exact hquote
  · exact fun _ _ _ _ _ heq => absurd heq hslash
  · exact fun _ _ heq => absurd heq hslash

theorem readUnits_escapeUnit (hunit : unit < 0x10000) (rest : List Char) :
    readUnits (escapeUnit unit ++ rest) = behindUnits [unit] (readUnits rest) := by
  have hlength := Hex.length_encode 4 unit
  have hdigits : ∀ char ∈ Hex.encode 4 unit, Hex.isDigit char = true := by
    intro char hmem
    obtain ⟨digit, hdigit, rfl⟩ := Hex.exists_digit_of_mem_encode hmem
    exact Hex.isDigit_digit hdigit
  have hdecode : Hex.decode (Hex.encode 4 unit) = unit := Hex.decode_encode hunit
  obtain ⟨first, second, third, fourth, hencode⟩ := List.length_eq_four.mp hlength
  have hread : hexUnit? (Hex.encode 4 unit) = some unit := by
    rw [hexUnit?, if_pos (List.all_eq_true.mpr hdigits), hdecode]
  rw [← prepend_some, ← hread, escapeUnit, hencode]
  rfl

private theorem readUnits_escape (char : Char) (rest : List Char) :
    readUnits (escape char ++ rest) = behindUnits (unitsOf char) (readUnits rest) := by
  have hwrites := writes_escape char
  generalize escape char = written at hwrites ⊢
  cases hwrites with
  | letter hunit =>
      have hunits : unitsOf char = [char.toNat] := if_pos (lt_of_letterUnit hunit)
      rw [hunits]
      exact readUnits_letter hunit rest
  | plain hquote hslash hplain =>
      have hunits : unitsOf char = [char.toNat] := if_pos (Nat.lt_trans hplain.2 (by decide))
      rw [hunits]
      exact readUnits_plain hquote (if_pos ⟨hplain.1, hslash⟩) rest
  | unit hshort =>
      have hunits : unitsOf char = [char.toNat] := if_pos hshort
      rw [hunits]
      exact readUnits_escapeUnit hshort rest
  | pair hlong =>
      have hunits : unitsOf char = [0xD800 + (char.toNat - 0x10000) / 0x400] ++
          [0xDC00 + (char.toNat - 0x10000) % 0x400] := if_neg (Nat.not_lt.mpr hlong)
      have hvalid := isValidChar_toNat char
      rw [hunits, behindUnits_append, List.append_assoc, readUnits_escapeUnit (by omega),
        readUnits_escapeUnit (by omega)]

end Units

private theorem readUnits_encode (text rest : List Char) :
    readUnits (text.flatMap escape ++ '"' :: rest) = some (text.flatMap unitsOf, rest) := by
  induction text with
  | nil => rfl
  | cons char text ih =>
      rw [List.flatMap_cons, List.append_assoc, readUnits_escape, ih]
      rfl

private theorem joinUnits_flatMap (text : List Char) : joinUnits
    (text.flatMap unitsOf) = some text := by
  induction text with
  | nil => rfl
  | cons char text ih => rw [List.flatMap_cons, joinUnits_unitsOf, ih, Option.map_some]

@[simp] theorem readString_encode (text rest : List Char) :
    readString (encode text ++ rest) = some (String.ofList text, rest) := by
  have hunits : readUnits (text.flatMap escape ++ ['"'] ++ rest) =
      some (text.flatMap unitsOf, rest) := by
    rw [List.append_assoc]
    exact readUnits_encode text rest
  simp only [encode, List.cons_append, readString, hunits, bind, Option.bind,
    joinUnits_flatMap]
  rfl

example : readString "\"\\ud83d\\ude00\\/\"".toList = some ("😀/", []) := by decide +kernel

example : readString "\"\\ud83d\"".toList = none := by decide +kernel

/-! ## Integers -/

theorem ne_of_isDigit {digit other : Char} (hdigit : digit.isDigit = true)
    (hother : other.isDigit = false) : digit ≠ other := by
  rintro rfl
  rw [hdigit] at hother
  contradiction

private theorem eq_zero_of_head?_toDigits {value : Nat}
    (h : (Nat.toDigits 10 value).head? = some '0') :
    value = 0 := by
  have hdigit : ∀ digit < 10, Nat.digitChar digit = '0' → digit = 0 := by decide
  induction value using Nat.strongRecOn with
  | ind value ih =>
      rw [Nat.toDigits_eq_if (by decide)] at h
      split at h
      next hsmall => exact hdigit value hsmall (Option.some.inj h)
      next hlarge =>
        rw [List.head?_append_of_ne_nil _ Nat.toDigits_ne_nil] at h
        have hzero := ih (value / 10) (by omega) h
        omega

private theorem readNatural_toDigits (value : Nat) {rest : List Char}
    (hrest : StopsAt Char.isDigit rest) :
    readNatural (Nat.toDigits 10 value ++ rest) = some (value, rest) := by
  have hdigits : (Nat.toDigits 10 value ++ rest).takeWhile Char.isDigit =
      Nat.toDigits 10 value := by
    rw [takeWhile_append_of_stopsAt _ hrest, List.takeWhile_eq_self_iff]
    exact fun digit hmem => Nat.isDigit_of_mem_toDigits (by decide) (by decide) hmem
  have hwritten : ¬ ((Nat.toDigits 10 value).isEmpty ||
      ((Nat.toDigits 10 value).head? = some '0' && Nat.toDigits 10 value ≠ ['0'])) = true := by
    simp only [Bool.or_eq_true, List.isEmpty_iff, Bool.and_eq_true, decide_eq_true_eq, not_or,
      not_and, not_not]
    refine ⟨Nat.toDigits_ne_nil, fun hzero => ?_⟩
    rw [eq_zero_of_head?_toDigits hzero, Nat.toDigits_zero]
  simp only [readNatural, hdigits]
  rw [if_neg hwritten, Nat.ofDigitChars_toDigits (by decide) (by decide), List.drop_left]

theorem toList_repr (value : Nat) : value.repr.toList = Nat.toDigits 10 value := by
  rw [← Nat.toString_eq_repr, Nat.toString_eq_ofList_toDigits, String.toList_ofList]

theorem exists_toDigits_eq_cons (value : Nat) :
    ∃ digit digits, Nat.toDigits 10 value = digit :: digits ∧ digit.isDigit = true := by
  obtain ⟨digit, digits, hdigits⟩ :=
    List.exists_cons_of_ne_nil (Nat.toDigits_ne_nil (n := value) (b := 10))
  have hmem : digit ∈ Nat.toDigits 10 value := hdigits ▸ List.mem_cons_self
  exact ⟨digit, digits, hdigits, Nat.isDigit_of_mem_toDigits (by decide) (by decide) hmem⟩

theorem toList_toString (value : Int) :
    ∃ natural : Nat,
      (value = natural ∧ (toString value).toList = Nat.toDigits 10 natural) ∨
      (value = -natural ∧ (toString value).toList = '-' :: Nat.toDigits 10 natural) := by
  cases value with
  | ofNat natural => exact ⟨natural, .inl ⟨rfl, toList_repr natural⟩⟩
  | negSucc natural =>
      refine ⟨natural + 1, .inr ⟨rfl, ?_⟩⟩
      change ("-" ++ (natural + 1).repr).toList = _
      rw [String.toList_append, toList_repr]
      rfl

theorem exists_toString_eq_cons (value : Int) :
    ∃ first others, (toString value).toList = first :: others ∧
      (first = '-' ∨ first.isDigit = true) := by
  obtain ⟨natural, ⟨-, hwrite⟩ | ⟨-, hwrite⟩⟩ := toList_toString value
  · obtain ⟨digit, digits, hdigits, hdigit⟩ := exists_toDigits_eq_cons natural
    exact ⟨digit, digits, hwrite.trans hdigits, .inr hdigit⟩
  · exact ⟨'-', Nat.toDigits 10 natural, hwrite, .inl rfl⟩

private theorem readInteger_toString (value : Int) {rest : List Char}
    (hrest : StopsAt Char.isDigit rest) :
    readInteger ((toString value).toList ++ rest) = some (value, rest) := by
  obtain ⟨natural, ⟨rfl, hwrite⟩ | ⟨rfl, hwrite⟩⟩ := toList_toString value
  all_goals have hread := readNatural_toDigits natural hrest
  · obtain ⟨digit, digits, hdigits, hdigit⟩ := exists_toDigits_eq_cons natural
    have hminus : digit ≠ '-' := ne_of_isDigit hdigit rfl
    rw [hwrite, hdigits, List.cons_append, readInteger, ← List.cons_append, ← hdigits, hread]
    · rfl
    · exact fun _ heq => hminus (List.cons.inj heq).1
  · rw [hwrite, List.cons_append, readInteger, hread]
    rfl

end JsonObject

/-! ## Objects -/

def JsonValue.write : JsonValue → List Char
  | string text => JsonString.encode text.toList
  | integer value => (toString value).toList

namespace JsonObject

open JsonString

def writeMember (member : String × JsonValue) : List Char :=
  encode member.1.toList ++ ':' :: ' ' :: member.2.write

def write (object : JsonObject) : List Char :=
  '\x7b' :: [',', ' '].intercalate (object.map writeMember) ++ ['\x7d']

theorem skipBlanks_cons {first : Char} (h : isBlank first = false) (others : List Char) :
    skipBlanks (first :: others) = first :: others := by
  simp [skipBlanks, h]

private theorem isBlank_of_isDigit {digit : Char} (h : digit.isDigit = true) :
    isBlank digit = false := by
  have hspace : digit ≠ ' ' := ne_of_isDigit h rfl
  have htab : digit ≠ '\t' := ne_of_isDigit h rfl
  have hfeed : digit ≠ '\n' := ne_of_isDigit h rfl
  have hreturn : digit ≠ '\r' := ne_of_isDigit h rfl
  simp [isBlank, hspace, htab, hfeed, hreturn]

theorem exists_write_eq_cons (value : JsonValue) :
    ∃ first others, value.write = first :: others ∧ isBlank first = false := by
  cases value with
  | string text => exact ⟨'"', _, rfl, rfl⟩
  | integer value =>
      obtain ⟨first, others, hwrite, rfl | hdigit⟩ := exists_toString_eq_cons value
      · exact ⟨'-', others, hwrite, rfl⟩
      · exact ⟨first, others, hwrite, isBlank_of_isDigit hdigit⟩

private theorem readValue_write (value : JsonValue) {rest : List Char}
    (hrest : StopsAt Char.isDigit rest) :
    readValue (value.write ++ rest) = some (value, rest) := by
  cases value with
  | string text =>
      have hread := readString_encode text.toList rest
      change (readString (encode text.toList ++ rest)).bind _ = _
      rw [hread, String.ofList_toList]
      rfl
  | integer value =>
      have hread := readInteger_toString value hrest
      have hquote : ((toString value).toList ++ rest).head? ≠ some '"' := by
        obtain ⟨first, others, hwrite, rfl | hdigit⟩ := exists_toString_eq_cons value
        · rw [hwrite]
          simp
        · have hfirst : first ≠ '"' := ne_of_isDigit hdigit rfl
          rw [hwrite]
          simpa using hfirst
      rw [readValue, JsonValue.write, if_neg hquote, hread]
      rfl

theorem readMember_write (member : String × JsonValue) {next : Char}
    (hdigit : next.isDigit = false) (hblank : isBlank next = false) (rest : List Char) :
    readMember (writeMember member ++ next :: rest) = some (member, next :: rest) := by
  obtain ⟨name, value⟩ := member
  let behindColon := ' ' :: (value.write ++ next :: rest)
  have htext : writeMember (name, value) ++ next :: rest =
      encode name.toList ++ ':' :: behindColon := by
    simp [writeMember, behindColon]
  have hname : readString (encode name.toList ++ ':' :: behindColon) =
      some (name, ':' :: behindColon) := by
    rw [readString_encode, String.ofList_toList]
  have hvalue : readValue (value.write ++ next :: rest) = some (value, next :: rest) :=
    readValue_write value (stopsAt_cons.mpr hdigit)
  have hstart : skipBlanks (encode name.toList ++ ':' :: behindColon) =
      encode name.toList ++ ':' :: behindColon := skipBlanks_cons rfl _
  have hcolon : skipBlanks (':' :: behindColon) = ':' :: behindColon := skipBlanks_cons rfl _
  have hspace : skipBlanks behindColon = value.write ++ next :: rest := by
    obtain ⟨first, others, hwrite, hfirst⟩ := exists_write_eq_cons value
    change skipBlanks (value.write ++ next :: rest) = _
    rw [hwrite]
    exact skipBlanks_cons hfirst _
  simp only [readMember, htext, hstart, hname, hcolon, hspace, hvalue, skipBlanks_cons hblank, bind,
    Option.bind]
  rfl

private theorem readMembers_blank (text : List Char) : readMembers
    (' ' :: text) = readMembers text := by
  have hread : readMember (' ' :: text) = readMember text := rfl
  rw [readMembers, readMembers, hread]

private theorem readMembers_write (member : String × JsonValue) (others : JsonObject) :
    readMembers ([',', ' '].intercalate ((member :: others).map writeMember) ++ ['\x7d']) =
      some (member :: others) := by
  induction others generalizing member with
  | nil =>
      have hread : readMember (writeMember member ++ ['\x7d']) = some (member, ['\x7d']) :=
        readMember_write member rfl rfl []
      rw [List.map_singleton, List.intercalate_singleton, readMembers, hread]
      rfl
  | cons following others ih =>
      let behind := [',', ' '].intercalate ((following :: others).map writeMember) ++ ['\x7d']
      have htext : [',', ' '].intercalate ((member :: following :: others).map writeMember) ++
          ['\x7d'] = writeMember member ++ ',' :: ' ' :: behind := by
        simp [behind]
      have hread : readMember (writeMember member ++ ',' :: ' ' :: behind) =
          some (member, ',' :: ' ' :: behind) := readMember_write member rfl rfl _
      rw [htext, readMembers, hread]
      change (readMembers (' ' :: behind)).bind _ = _
      rw [readMembers_blank, ih following]
      rfl

/-- Whatever is written can be read back. -/
@[simp] theorem read_write (object : JsonObject) : read (write object) = some object := by
  cases object with
  | nil => rfl
  | cons member others =>
      have hread := readMembers_write member others
      have hquote : ∃ rest,
          [',', ' '].intercalate ((member :: others).map writeMember) ++ ['\x7d'] =
            '"' :: rest := by
        cases others <;> exact ⟨_, rfl⟩
      obtain ⟨rest, hrest⟩ := hquote
      rw [hrest] at hread
      rw [write, List.cons_append, hrest]
      exact hread

/-! ## Characters -/

theorem isPrintable_escapeUnit (unit : Nat) : ∀ char ∈ escapeUnit unit, IsPrintable char := by
  have hdigit : ∀ digit < 16, IsPrintable (Hex.digit digit) := by decide
  simp only [escapeUnit, List.forall_mem_cons]
  refine ⟨by decide, by decide, fun char hmem => ?_⟩
  obtain ⟨digit, hlt, rfl⟩ := Hex.exists_digit_of_mem_encode hmem
  exact hdigit digit hlt

private theorem isPrintable_of_letterUnit {letter : Char} {unit : Nat}
    (h : letterUnit? letter = some unit) : IsPrintable letter := by
  unfold letterUnit? at h
  split at h
  all_goals first | decide | contradiction

private theorem isPrintable_escape (char : Char) :
    ∀ written ∈ escape char, IsPrintable written := by
  have hwrites := writes_escape char
  generalize escape char = written at hwrites ⊢
  cases hwrites with
  | letter hunit => simp [isPrintable_of_letterUnit hunit, show IsPrintable '\\' by decide]
  | plain _ _ hplain => exact List.forall_mem_singleton.mpr hplain
  | unit _ => exact isPrintable_escapeUnit _
  | pair _ =>
      exact List.forall_mem_append.mpr ⟨isPrintable_escapeUnit _, isPrintable_escapeUnit _⟩

theorem isPrintable_encode (text : List Char) : ∀ written ∈ encode text, IsPrintable written := by
  have hquote : IsPrintable '"' := by decide
  have hinside : ∀ written ∈ text.flatMap escape, IsPrintable written := by
    intro written hmem
    obtain ⟨char, -, hwritten⟩ := List.mem_flatMap.mp hmem
    exact isPrintable_escape char written hwritten
  rw [encode, List.cons_append, List.forall_mem_cons, List.forall_mem_append]
  exact ⟨hquote, hinside, by simpa using hquote⟩

private theorem isPrintable_of_isDigit {digit : Char} (h : digit.isDigit = true) :
    IsPrintable digit := by
  simp only [Char.isDigit, Bool.and_eq_true, decide_eq_true_eq, ge_iff_le, UInt32.le_iff_toNat_le]
    at h
  change 48 ≤ digit.toNat ∧ digit.toNat ≤ 57 at h
  exact ⟨by omega, by omega⟩

theorem isPrintable_toString (value : Int) :
    ∀ char ∈ (toString value).toList, IsPrintable char := by
  have hdigits : ∀ natural, ∀ char ∈ Nat.toDigits 10 natural, IsPrintable char :=
    fun natural char hmem =>
      isPrintable_of_isDigit (Nat.isDigit_of_mem_toDigits (by decide) (by decide) hmem)
  obtain ⟨natural, ⟨-, hwrite⟩ | ⟨-, hwrite⟩⟩ := toList_toString value
  · rw [hwrite]
    exact hdigits natural
  · rw [hwrite, List.forall_mem_cons]
    exact ⟨by decide, hdigits natural⟩

private theorem isPrintable_writeMember (member : String × JsonValue) :
    ∀ char ∈ writeMember member, IsPrintable char := by
  have hvalue : ∀ char ∈ member.2.write, IsPrintable char := by
    cases member.2 with
    | string text => exact isPrintable_encode _
    | integer value => exact isPrintable_toString value
  rw [writeMember, List.forall_mem_append, List.forall_mem_cons, List.forall_mem_cons]
  exact ⟨isPrintable_encode _, by decide, by decide, hvalue⟩

private theorem isPrintable_intercalate (texts : List (List Char))
    (h : ∀ text ∈ texts, ∀ char ∈ text, IsPrintable char) :
    ∀ char ∈ [',', ' '].intercalate texts, IsPrintable char := by
  have hseparator : ∀ char ∈ [',', ' '], IsPrintable char :=
    List.forall_mem_cons.mpr ⟨by decide, List.forall_mem_singleton.mpr (by decide)⟩
  induction texts with
  | nil => simp
  | cons text texts ih =>
      obtain ⟨htext, htexts⟩ := List.forall_mem_cons.mp h
      cases texts with
      | nil => simpa using htext
      | cons following texts =>
          rw [List.intercalate_cons_cons, List.append_assoc, List.forall_mem_append,
            List.forall_mem_append]
          exact ⟨htext, hseparator, ih htexts⟩

theorem isPrintable_write (object : JsonObject) : ∀ char ∈ write object, IsPrintable char := by
  have hmembers : ∀ text ∈ object.map writeMember, ∀ char ∈ text, IsPrintable char := by
    intro text hmem
    obtain ⟨member, -, rfl⟩ := List.mem_map.mp hmem
    exact isPrintable_writeMember member
  have hbrace : IsPrintable '\x7d' := by decide
  rw [write, List.cons_append, List.forall_mem_cons, List.forall_mem_append]
  exact ⟨by decide, isPrintable_intercalate _ hmembers, by simpa using hbrace⟩

/-! ## Lines -/

private theorem between_lines (objects : List JsonObject) :
    between '\n' (objects.flatMap fun object => write object ++ ['\n']) =
      objects.map write ++ [[]] := by
  induction objects with
  | nil => rfl
  | cons object objects ih =>
      have hline : '\n' ∉ write object := fun hmem =>
        absurd (isPrintable_write object _ hmem) (by decide)
      rw [List.flatMap_cons, List.append_assoc, List.singleton_append, between_append hline, ih]
      rfl

@[simp] theorem readLines_write (objects : List JsonObject) :
    readLines (objects.flatMap fun object => write object ++ ['\n']) = some objects := by
  have hread : (objects.map write).mapM read = some objects := by
    induction objects with
    | nil => rfl
    | cons object objects ih =>
        rw [List.map_cons, List.mapM_cons, read_write, ih]
        rfl
  simp only [readLines, between_lines, List.getLast?_concat, List.dropLast_concat, hread, if_true]

end JsonObject

end Text

end ShaderTokens
