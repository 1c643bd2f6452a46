import ShaderTokens.Proofs.LexemeBoundary
import ShaderTokens.Proofs.Tiling

/-!
# Numbers are longest

The forms of numbers are tried one after the other, and the first that fits is taken.  What is taken
is nevertheless the longest number that stands there, and a number is read wherever there is one.
-/

namespace ShaderTokens

namespace Lexeme.Number

/-! ## The forms of numbers -/

def IsHexDigit (char : Char) : Prop :=
  char.isDigit = true ∨ ('a' ≤ char ∧ char ≤ 'f') ∨ ('A' ≤ char ∧ char ≤ 'F')

def IsOptional (allowed : List Char) (text : List Char) : Prop :=
  text = [] ∨ ∃ char ∈ allowed, text = [char]

def IsWholeEnd (letters : List Char) : Prop :=
  (∀ char ∈ letters, char ∈ ['u', 'U', 'l', 'L']) ∨ IsOptional ['f', 'F', 'h', 'H'] letters

inductive IsExponent : List Char → Prop
  | intro {mark : Char} {sign power : List Char} (hmark : mark ∈ ['e', 'E'])
      (hsign : IsOptional ['+', '-'] sign) (hne : power ≠ [])
      (hpower : ∀ char ∈ power, char.isDigit = true) : IsExponent (mark :: (sign ++ power))

inductive IsNumber : List Char → Prop
  | hexadecimal {mark : Char} {digits letters : List Char} (hmark : mark ∈ ['x', 'X'])
      (hne : digits ≠ []) (hdigits : ∀ char ∈ digits, IsHexDigit char)
      (hletters : ∀ char ∈ letters, char ∈ ['u', 'U', 'l', 'L']) :
      IsNumber ('0' :: mark :: (digits ++ letters))
  | pointed {whole fraction exponent letter : List Char}
      (hwhole : ∀ char ∈ whole, char.isDigit = true)
      (hfraction : ∀ char ∈ fraction, char.isDigit = true) (hne : whole ≠ [] ∨ fraction ≠ [])
      (hexponent : exponent = [] ∨ IsExponent exponent)
      (hletter : IsOptional ['f', 'F', 'h', 'H', 'l', 'L'] letter) :
      IsNumber (whole ++ '.' :: (fraction ++ (exponent ++ letter)))
  | scientific {whole exponent letter : List Char}
      (hne : whole ≠ []) (hwhole : ∀ char ∈ whole, char.isDigit = true)
      (hexponent : IsExponent exponent)
      (hletter : IsOptional ['f', 'F', 'h', 'H', 'l', 'L'] letter) :
      IsNumber (whole ++ (exponent ++ letter))
  | whole {digits letters : List Char} (hne : digits ≠ [])
      (hdigits : ∀ char ∈ digits, char.isDigit = true)
      (hletters : IsWholeEnd letters) : IsNumber (digits ++ letters)

/-! ## Classes of characters -/

theorem isHexMark_iff {char : Char} : isHexMark char = true ↔ char ∈ ['x', 'X'] := by
  simp [isHexMark]

theorem isExponentMark_iff {char : Char} : isExponentMark char = true ↔ char ∈ ['e', 'E'] := by
  simp [isExponentMark]

theorem isSign_iff {char : Char} : isSign char = true ↔ char ∈ ['+', '-'] := by
  simp [isSign]

theorem isWholeSuffix_iff {char : Char} :
    isWholeSuffix char = true ↔ char ∈ ['u', 'U', 'l', 'L'] := by
  simp [isWholeSuffix, or_assoc]

theorem isHalfSuffix_iff {char : Char} :
    isHalfSuffix char = true ↔ char ∈ ['f', 'F', 'h', 'H'] := by
  simp [isHalfSuffix, or_assoc]

theorem isRealSuffix_iff {char : Char} :
    isRealSuffix char = true ↔ char ∈ ['f', 'F', 'h', 'H', 'l', 'L'] := by
  simp [isRealSuffix, isHalfSuffix, or_assoc]

theorem isHexDigit_iff {char : Char} : Text.Hex.isDigit char = true ↔ IsHexDigit char := by
  unfold Text.Hex.isDigit Text.Hex.digitValue? IsHexDigit
  split_ifs <;> simp_all

theorem isDigit_of_mem_digits {char : Char} {chars : List Char} (h : char ∈ digits chars) :
    char.isDigit = true :=
  List.mem_takeWhile_imp h

/-! ## What is read is a number -/

theorem isOptional_suffix {isMember : Char → Bool} {allowed : List Char}
    (hmember : ∀ char, isMember char = true ↔ char ∈ allowed) (chars : List Char) :
    IsOptional allowed (suffix isMember chars) := by
  fun_cases suffix isMember chars with
  | case1 => exact .inl rfl
  | case2 char others hchar => exact .inr ⟨char, (hmember char).mp hchar, rfl⟩
  | case3 => exact .inl rfl

theorem isExponent_of_exponent? {chars power : List Char} (h : exponent? chars = some power) :
    IsExponent power := by
  cases chars with
  | nil => contradiction
  | cons mark chars =>
      simp only [exponent?, Option.ite_none_right_eq_some, Option.map_eq_some_iff, signedDigits?,
        Option.ite_none_left_eq_some, Option.some.injEq] at h
      obtain ⟨hmark, signed, ⟨hne, rfl⟩, rfl⟩ := h
      exact .intro (isExponentMark_iff.mp hmark) (isOptional_suffix (fun _ => isSign_iff) chars)
        (by simpa using hne) fun char => isDigit_of_mem_digits

private theorem exists_realTail_eq (chars : List Char) :
    ∃ exponent letter, realTail chars = exponent ++ letter ∧
      (exponent = [] ∨ IsExponent exponent) ∧
      IsOptional ['f', 'F', 'h', 'H', 'l', 'L'] letter := by
  refine ⟨(exponent? chars).getD [], _, rfl, ?_, isOptional_suffix (fun _ => isRealSuffix_iff) _⟩
  cases hexponent : exponent? chars with
  | none => exact .inl rfl
  | some power => exact .inr (isExponent_of_exponent? hexponent)

private theorem isNumber_of_hexadecimal? {chars number : List Char}
    (h : hexadecimal? chars = some number) : IsNumber number := by
  unfold hexadecimal? at h
  split at h
  · next mark others =>
    simp only [Option.ite_none_right_eq_some, Option.ite_none_left_eq_some,
      Option.some.injEq] at h
    obtain ⟨hmark, hne, rfl⟩ := h
    refine .hexadecimal (isHexMark_iff.mp hmark) (by simpa using hne) ?_ ?_
    · exact fun char hchar => isHexDigit_iff.mp (List.mem_takeWhile_imp hchar)
    · exact fun char hchar => isWholeSuffix_iff.mp (List.mem_takeWhile_imp hchar)
  · contradiction

private theorem isNumber_of_pointed? {chars number : List Char} (h : pointed? chars = some number) :
    IsNumber number := by
  unfold pointed? at h
  dsimp only at h
  split at h
  · next others hothers =>
    simp only [Option.ite_none_left_eq_some, Option.some.injEq] at h
    obtain ⟨hne, rfl⟩ := h
    obtain ⟨exponent, letter, htail, hexponent, hletter⟩ :=
      exists_realTail_eq (others.drop (digits others).length)
    rw [htail, List.append_assoc, List.cons_append]
    refine .pointed (fun _ => isDigit_of_mem_digits) (fun _ => isDigit_of_mem_digits) ?_ hexponent
      hletter
    simpa [or_iff_not_imp_left] using hne
  · contradiction

private theorem isNumber_of_scientific? {chars number : List Char}
    (h : scientific? chars = some number) :
    IsNumber number := by
  simp only [scientific?, Option.ite_none_left_eq_some, Option.map_eq_some_iff] at h
  obtain ⟨hne, exponent, hexponent, rfl⟩ := h
  rw [List.append_assoc]
  exact .scientific (by simpa using hne) (fun _ => isDigit_of_mem_digits)
    (isExponent_of_exponent? hexponent) (isOptional_suffix (fun _ => isRealSuffix_iff) _)

private theorem isNumber_of_whole? {chars number : List Char} (h : whole? chars = some number) :
    IsNumber number := by
  simp only [whole?, Option.ite_none_left_eq_some, Option.some.injEq] at h
  obtain ⟨hne, rfl⟩ := h
  refine .whole (by simpa using hne) (fun _ => isDigit_of_mem_digits) ?_
  split
  · exact .inr (isOptional_suffix (fun _ => isHalfSuffix_iff) _)
  · exact .inl fun char hchar => isWholeSuffix_iff.mp (List.mem_takeWhile_imp hchar)

end Lexeme.Number

theorem Lexeme.isNumber_of_number? {chars number : List Char} (h : number? chars = some number) :
    Number.IsNumber number := by
  simp only [number?, Option.orElse_eq_orElse, Option.orElse_eq_or, Option.or_eq_some_iff] at h
  rcases h with h | ⟨-, h | ⟨-, h | ⟨-, h⟩⟩⟩
  · exact Number.isNumber_of_hexadecimal? h
  · exact Number.isNumber_of_pointed? h
  · exact Number.isNumber_of_scientific? h
  · exact Number.isNumber_of_whole? h

namespace Lexeme.Number

/-! ## Every number is read as far as it goes -/

theorem length_le_takeWhile {isMember : Char → Bool} {part : List Char}
    (hpart : ∀ char ∈ part, isMember char = true) (rest : List Char) :
    part.length ≤ ((part ++ rest).takeWhile isMember).length := by
  rw [List.takeWhile_append_of_pos hpart, List.length_append]
  omega

theorem digits_append_of_stops {part rest : List Char}
    (hpart : ∀ char ∈ part, char.isDigit = true) (hrest : StopsAt Char.isDigit rest) :
    digits (part ++ rest) = part := by
  rw [digits, List.takeWhile_append_of_pos hpart, takeWhile_eq_nil_iff_stopsAt.mpr hrest,
    List.append_nil]

theorem realSuffix_not_digit :
    ∀ char ∈ ['f', 'F', 'h', 'H', 'l', 'L'], char.isDigit = false := by
  simp [Char.isDigit]

theorem isHexMark_realSuffix :
    ∀ char ∈ ['f', 'F', 'h', 'H', 'l', 'L'], isHexMark char = false := by
  simp [isHexMark]

theorem IsExponent.head?_append {exponent : List Char} (h : IsExponent exponent)
    (rest : List Char) :
    (exponent ++ rest).head? = some 'e' ∨ (exponent ++ rest).head? = some 'E' := by
  obtain ⟨hmark, -, -, -⟩ := h
  simpa using hmark

theorem IsExponent.stopsAt {exponent : List Char} (h : IsExponent exponent) (rest : List Char) :
    StopsAt Char.isDigit (exponent ++ rest) := by
  intro char hchar
  rcases h.head?_append rest with hhead | hhead <;>
  · rw [hhead, Option.mem_some_iff] at hchar
    exact hchar ▸ rfl

theorem exponent?_append_of_isExponent {exponent : List Char} (h : IsExponent exponent)
    (rest : List Char) : exponent? (exponent ++ rest) = some (exponent ++ digits rest) := by
  obtain @⟨mark, sign, power, hmark, hsign, hne, hpower⟩ := h
  have hpowerRest : digits (power ++ rest) = power ++ digits rest :=
    List.takeWhile_append_of_pos hpower
  have hsuffix : suffix isSign (sign ++ (power ++ rest)) = sign := by
    rcases hsign with rfl | ⟨char, hchar, rfl⟩
    · rw [List.nil_append, suffix_eq_nil_iff]
      obtain ⟨first, others, rfl⟩ := List.exists_cons_of_ne_nil hne
      have hdigit := hpower first List.mem_cons_self
      refine stopsAt_cons.mpr ?_
      by_contra hfirst
      rcases List.mem_pair.mp (isSign_iff.mp (by simpa using hfirst)) with rfl | rfl <;>
        contradiction
    · simp [suffix, isSign_iff.mpr hchar]
  simp [exponent?, signedDigits?, isExponentMark_iff.mpr hmark, hsuffix, hpowerRest, hne]

theorem length_le_realTail {exponent letter : List Char}
    (hexponent : exponent = [] ∨ IsExponent exponent)
    (hletter : IsOptional ['f', 'F', 'h', 'H', 'l', 'L'] letter) (rest : List Char) :
    (exponent ++ letter).length ≤ (realTail (exponent ++ (letter ++ rest))).length := by
  rcases hletter with rfl | ⟨char, hchar, rfl⟩
  · rcases hexponent with rfl | hexponent
    · exact Nat.zero_le _
    · simp [realTail, exponent?_append_of_isExponent hexponent]
  · -- No digit and no mark, the letter ends the exponent and is read for itself.
    have hdigit := realSuffix_not_digit char hchar
    have hmarks : ∀ char ∈ ['f', 'F', 'h', 'H', 'l', 'L'], isExponentMark char = false := by
      simp [isExponentMark]
    have hmark := hmarks char hchar
    have hfound : (exponent? (exponent ++ char :: rest)).getD [] = exponent := by
      rcases hexponent with rfl | hexponent
      · simp [exponent?, hmark]
      · simp [exponent?_append_of_isExponent hexponent, digits, hdigit]
    simp [realTail, hfound, suffix, isRealSuffix_iff.mpr hchar]

def behindPoint (others : List Char) : List Char :=
  digits others ++ realTail (others.drop (digits others).length)

private theorem length_le_behindPoint {fraction exponent letter : List Char}
    (hfraction : ∀ char ∈ fraction, char.isDigit = true)
    (hexponent : exponent = [] ∨ IsExponent exponent)
    (hletter : IsOptional ['f', 'F', 'h', 'H', 'l', 'L'] letter) (rest : List Char) :
    (fraction ++ (exponent ++ letter)).length ≤
      (behindPoint (fraction ++ (exponent ++ (letter ++ rest)))).length := by
  by_cases htail : exponent ++ letter = []
  · rw [htail, List.append_nil, behindPoint, List.length_append]
    exact (length_le_takeWhile hfraction _).trans (Nat.le_add_right _ _)
  · have hstops : StopsAt Char.isDigit (exponent ++ (letter ++ rest)) := by
      rcases hexponent with rfl | hexponent
      · rcases hletter with rfl | ⟨char, hchar, rfl⟩
        · contradiction
        · exact stopsAt_cons.mpr (realSuffix_not_digit char hchar)
      · exact hexponent.stopsAt _
    have htailLength := length_le_realTail hexponent hletter rest
    rw [behindPoint, digits_append_of_stops hfraction hstops, List.drop_left]
    simp only [List.length_append] at htailLength ⊢
    omega

/-- The reader finds a number at least as long as the text that stands in front of the rest. -/
def Covers (read : List Char → Option (List Char)) (text rest : List Char) : Prop :=
  ∃ number, read (text ++ rest) = some number ∧ text.length ≤ number.length

theorem Covers.orElse {first : List Char → Option (List Char)} {text rest : List Char}
    (h : Covers first text rest) (second : List Char → Option (List Char)) :
    Covers (fun chars => first chars <|> second chars) text rest := by
  obtain ⟨number, hnumber, hlength⟩ := h
  exact ⟨number, by simp [hnumber], hlength⟩

theorem Covers.orElse_of_eq_none {first second : List Char → Option (List Char)}
    {text rest : List Char} (hfirst : first (text ++ rest) = none) (h : Covers second text rest) :
    Covers (fun chars => first chars <|> second chars) text rest := by
  obtain ⟨number, hnumber, hlength⟩ := h
  exact ⟨number, by simp [hfirst, hnumber], hlength⟩

section Decimal

variable {whole : List Char} (hwhole : ∀ char ∈ whole, char.isDigit = true)

include hwhole

private theorem pointed?_of_digits (others : List Char) :
    pointed? (whole ++ '.' :: others) =
      if whole.isEmpty && (digits others).isEmpty then none
      else some (whole ++ '.' :: behindPoint others) := by
  have hdigits := digits_append_of_stops hwhole
    (stopsAt_cons.mpr rfl : StopsAt Char.isDigit ('.' :: others))
  simp only [pointed?, hdigits, List.drop_left, behindPoint, List.append_assoc, List.cons_append]

theorem pointed?_eq_none {others : List Char} (hstops : StopsAt Char.isDigit others)
    (hpoint : others.head? ≠ some '.') : pointed? (whole ++ others) = none := by
  simp only [pointed?, digits_append_of_stops hwhole hstops, List.drop_left]
  split
  · simp at hpoint
  · rfl

private theorem scientific?_eq_none {others : List Char} (hstops : StopsAt Char.isDigit others)
    (hexponent : exponent? others = none) : scientific? (whole ++ others) = none := by
  simp [scientific?, digits_append_of_stops hwhole hstops, hexponent]

private theorem covers_pointed? {fraction exponent letter : List Char}
    (hfraction : ∀ char ∈ fraction, char.isDigit = true) (hne : whole ≠ [] ∨ fraction ≠ [])
    (hexponent : exponent = [] ∨ IsExponent exponent)
    (hletter : IsOptional ['f', 'F', 'h', 'H', 'l', 'L'] letter) (rest : List Char) :
    Covers pointed? (whole ++ '.' :: (fraction ++ (exponent ++ letter))) rest := by
  have hdigits := length_le_takeWhile hfraction (exponent ++ (letter ++ rest))
  have hbehind := length_le_behindPoint hfraction hexponent hletter rest
  have hsome : ¬ (whole.isEmpty &&
      (digits (fraction ++ (exponent ++ (letter ++ rest)))).isEmpty) = true := by
    intro hempty
    simp only [Bool.and_eq_true, List.isEmpty_iff] at hempty
    obtain ⟨rfl, hfound⟩ := hempty
    rw [← digits, hfound, List.length_nil, Nat.le_zero, List.length_eq_zero_iff] at hdigits
    simp [hdigits] at hne
  refine ⟨whole ++ '.' :: behindPoint (fraction ++ (exponent ++ (letter ++ rest))), ?_, ?_⟩
  · simp only [List.append_assoc, List.cons_append]
    rw [pointed?_of_digits hwhole, if_neg hsome]
  · rw [List.length_append, List.length_append, List.length_cons, List.length_cons]
    omega

private theorem covers_scientific? {exponent letter : List Char} (hne : whole ≠ [])
    (hexponent : IsExponent exponent)
    (hletter : IsOptional ['f', 'F', 'h', 'H', 'l', 'L'] letter) (rest : List Char) :
    Covers scientific? (whole ++ (exponent ++ letter)) rest := by
  have hdigits : digits (whole ++ (exponent ++ (letter ++ rest))) = whole :=
    digits_append_of_stops hwhole (hexponent.stopsAt _)
  have hfound := exponent?_append_of_isExponent hexponent (letter ++ rest)
  have htail := length_le_realTail (.inr hexponent) hletter rest
  refine ⟨whole ++ realTail (exponent ++ (letter ++ rest)), ?_, ?_⟩
  · have hnonempty : whole.isEmpty = false := by simpa using hne
    simp [scientific?, hdigits, hfound, hnonempty, realTail]
  · simp only [List.length_append] at htail ⊢
    omega

end Decimal

private theorem covers_hexadecimal? {mark : Char} {hexDigits letters : List Char}
    (hmark : mark ∈ ['x', 'X']) (hne : hexDigits ≠ [])
    (hdigits : ∀ char ∈ hexDigits, IsHexDigit char)
    (hletters : ∀ char ∈ letters, char ∈ ['u', 'U', 'l', 'L']) (rest : List Char) :
    Covers hexadecimal? ('0' :: mark :: (hexDigits ++ letters)) rest := by
  have hread : ∀ char ∈ hexDigits, Text.Hex.isDigit char = true :=
    fun char hchar => isHexDigit_iff.mpr (hdigits char hchar)
  have hfound : hexadecimal? ('0' :: mark :: (hexDigits ++ letters) ++ rest) =
      some ('0' :: mark :: (hexDigits ++ ((letters ++ rest).takeWhile Text.Hex.isDigit ++
        ((letters ++ rest).drop ((letters ++ rest).takeWhile Text.Hex.isDigit).length).takeWhile
          isWholeSuffix))) := by
    simp [hexadecimal?, isHexMark_iff.mpr hmark, List.takeWhile_append_of_pos hread, hne]
  refine ⟨_, hfound, ?_⟩
  cases letters with
  | nil => simp
  | cons letter letters =>
      -- No suffix is a digit, so the digits end where the suffixes begin.
      have hsuffixes : ∀ char ∈ ['u', 'U', 'l', 'L'], Text.Hex.isDigit char = false := by
        simp [Text.Hex.isDigit, Text.Hex.digitValue?, Char.isDigit]
      have hletter := hsuffixes letter (hletters letter List.mem_cons_self)
      have hdigitsEnd : (letter :: letters ++ rest).takeWhile Text.Hex.isDigit = [] :=
        takeWhile_eq_nil_iff_stopsAt.mpr (stopsAt_cons.mpr hletter)
      have hlength : (letter :: letters).length ≤
          ((letter :: letters ++ rest).takeWhile isWholeSuffix).length :=
        length_le_takeWhile (fun char hchar => isWholeSuffix_iff.mpr (hletters char hchar)) rest
      rw [hdigitsEnd]
      simp only [List.nil_append, List.length_nil, List.drop_zero, List.length_cons,
        List.length_append] at hlength ⊢
      omega

private theorem covers_whole? {whole letters : List Char} (hne : whole ≠ [])
    (hwhole : ∀ char ∈ whole, char.isDigit = true)
    (hletters : IsWholeEnd letters) (rest : List Char)
    (hstops : StopsAt Char.isDigit (letters ++ rest)) :
    Covers whole? (whole ++ letters) rest := by
  have hdigits := digits_append_of_stops hwhole hstops
  have hfound : whole? (whole ++ letters ++ rest) =
      some (whole ++ if ((letters ++ rest).takeWhile isWholeSuffix).isEmpty
        then suffix isHalfSuffix (letters ++ rest)
        else (letters ++ rest).takeWhile isWholeSuffix) := by
    have hnonempty : whole.isEmpty = false := by simpa using hne
    simp [whole?, hdigits, hnonempty]
  refine ⟨_, hfound, ?_⟩
  rw [List.length_append, List.length_append, Nat.add_le_add_iff_left]
  rcases hletters with hletters | rfl | ⟨char, hchar, rfl⟩
  · have hlength : letters.length ≤ ((letters ++ rest).takeWhile isWholeSuffix).length :=
      length_le_takeWhile (fun char hchar => isWholeSuffix_iff.mpr (hletters char hchar)) rest
    split
    next hempty =>
      rw [List.isEmpty_iff.mp hempty] at hlength
      exact hlength.trans (Nat.zero_le _)
    next => exact hlength
  · exact Nat.zero_le _
  · have hsuffixes : ∀ char ∈ ['f', 'F', 'h', 'H'], isWholeSuffix char = false := by
      simp [isWholeSuffix]
    simp [hsuffixes char hchar, suffix, isHalfSuffix_iff.mpr hchar]

/-! ## The forms do not get in each other's way -/

theorem isHexMark_of_isDigit {char : Char} (h : char.isDigit = true) : isHexMark char = false := by
  by_contra hmark
  rcases List.mem_pair.mp (isHexMark_iff.mp (by simpa using hmark)) with rfl | rfl <;> contradiction

theorem IsOptional.isHexMark {allowed letter : List Char} (h : IsOptional allowed letter)
    (hallowed : ∀ char ∈ allowed, isHexMark char = false) :
    ∀ char ∈ letter, isHexMark char = false := by
  rcases h with rfl | ⟨char, hchar, rfl⟩
  · simp
  · simpa using hallowed char hchar

theorem IsExponent.isHexMark {exponent : List Char} (h : IsExponent exponent) :
    ∀ char ∈ exponent, isHexMark char = false := by
  obtain ⟨hmark, hsign, -, hpower⟩ := h
  have hmarks : ∀ char ∈ ['e', 'E'], Number.isHexMark char = false := by simp [Number.isHexMark]
  have hmark := hmarks _ hmark
  have hsign := hsign.isHexMark (by simp [Number.isHexMark])
  intro char hchar
  simp only [List.mem_cons, List.mem_append] at hchar
  rcases hchar with rfl | hchar | hchar
  · exact hmark
  · exact hsign char hchar
  · exact isHexMark_of_isDigit (hpower char hchar)

def decimal? (chars : List Char) : Option (List Char) :=
  pointed? chars <|> scientific? chars <|> whole? chars

theorem Covers.number? {text rest : List Char} (hmark : ∀ char ∈ text, isHexMark char = false)
    (h : Covers decimal? text rest) : Covers number? text rest := by
  cases hhex : hexadecimal? (text ++ rest) with
  | none => exact .orElse_of_eq_none hhex h
  | some number =>
      refine .orElse ⟨number, hhex, ?_⟩ decimal?
      unfold hexadecimal? at hhex
      split at hhex
      · next mark others htext =>
        simp only [Option.ite_none_right_eq_some, Option.ite_none_left_eq_some,
          Option.some.injEq] at hhex
        obtain ⟨hfound, -, rfl⟩ := hhex
        rcases text with _ | ⟨first, _ | ⟨second, text⟩⟩
        · exact Nat.zero_le _
        · simp
        · simp only [List.cons_append, List.cons.injEq] at htext
          obtain ⟨-, rfl, -⟩ := htext
          rw [hmark second (by simp)] at hfound
          contradiction
      · contradiction

private theorem digits_isPrefix_of_decimal? {chars number : List Char}
    (h : decimal? chars = some number) :
    digits chars <+: number := by
  simp only [decimal?, Option.orElse_eq_orElse, Option.orElse_eq_or, Option.or_eq_some_iff] at h
  rcases h with h | ⟨-, h | ⟨-, h⟩⟩
  · unfold pointed? at h
    dsimp only at h
    split at h
    · simp only [Option.ite_none_left_eq_some, Option.some.injEq] at h
      obtain ⟨-, rfl⟩ := h
      exact ⟨_, (List.append_assoc _ _ _).symm⟩
    · contradiction
  · simp only [scientific?, Option.ite_none_left_eq_some, Option.map_eq_some_iff] at h
    obtain ⟨-, exponent, -, rfl⟩ := h
    exact ⟨_, (List.append_assoc _ _ _).symm⟩
  · simp only [whole?, Option.ite_none_left_eq_some, Option.some.injEq] at h
    obtain ⟨-, rfl⟩ := h
    exact List.prefix_append _ _

private theorem covers_decimal?_of_digits {whole : List Char} (hne : whole ≠ [])
    (hwhole : ∀ char ∈ whole, char.isDigit = true) (rest : List Char) :
    Covers decimal? whole rest := by
  have hdigits : whole.length ≤ (digits (whole ++ rest)).length := length_le_takeWhile hwhole rest
  cases hfound : decimal? (whole ++ rest) with
  | some number =>
      have hprefix := digits_isPrefix_of_decimal? hfound
      exact ⟨number, hfound, hdigits.trans hprefix.length_le⟩
  | none =>
      simp only [decimal?, Option.orElse_eq_orElse, Option.orElse_eq_or,
        Option.or_eq_none_iff] at hfound
      have hempty : digits (whole ++ rest) = [] := by simpa [whole?] using hfound.2.2
      rw [hempty, List.length_nil, Nat.le_zero, List.length_eq_zero_iff] at hdigits
      contradiction

theorem IsWholeEnd.of_mem {letters : List Char} (h : IsWholeEnd letters) {letter : Char}
    (hletter : letter ∈ letters) :
    letter.isDigit = false ∧ letter ≠ '.' ∧ isExponentMark letter = false ∧
      isHexMark letter = false := by
  have hmem : letter ∈ ['u', 'U', 'l', 'L'] ++ ['f', 'F', 'h', 'H'] := by
    rw [List.mem_append]
    rcases h with h | rfl | ⟨char, hchar, rfl⟩
    · exact .inl (h letter hletter)
    · contradiction
    · exact .inr (List.mem_singleton.mp hletter ▸ hchar)
  simp only [List.cons_append, List.nil_append, List.mem_cons, List.not_mem_nil, or_false] at hmem
  rcases hmem with rfl | rfl | rfl | rfl | rfl | rfl | rfl | rfl <;> decide

private theorem covers_decimal?_of_letters {whole letters : List Char} (hne : whole ≠ [])
    (hwhole : ∀ char ∈ whole, char.isDigit = true) (hletters : IsWholeEnd letters)
    (rest : List Char) : Covers decimal? (whole ++ letters) rest := by
  cases letters with
  | nil => simpa using covers_decimal?_of_digits hne hwhole rest
  | cons letter letters =>
      obtain ⟨hdigit, hpoint, hmark, -⟩ := hletters.of_mem List.mem_cons_self
      have hstops : StopsAt Char.isDigit (letter :: letters ++ rest) := stopsAt_cons.mpr hdigit
      have hpointed : pointed? (whole ++ letter :: letters ++ rest) = none := by
        rw [List.append_assoc]
        exact pointed?_eq_none hwhole hstops (by simpa using hpoint)
      have hscientific : scientific? (whole ++ letter :: letters ++ rest) = none := by
        rw [List.append_assoc]
        exact scientific?_eq_none hwhole hstops (by simp [exponent?, hmark])
      exact .orElse_of_eq_none hpointed
        (.orElse_of_eq_none hscientific (covers_whole? hne hwhole hletters rest hstops))

/-- Of all numbers that a text starts with, none is longer than the one that is read. -/
theorem covers_number? {text : List Char} (h : IsNumber text) (rest : List Char) :
    Covers number? text rest := by
  cases h with
  | hexadecimal hmark hne hdigits hletters =>
      exact .orElse (covers_hexadecimal? hmark hne hdigits hletters rest) decimal?
  | pointed hwhole hfraction hne hexponent hletter =>
      refine .number? ?_ (.orElse (covers_pointed? hwhole hfraction hne hexponent hletter rest) _)
      have hexponent : ∀ char ∈ _, isHexMark char = false :=
        hexponent.elim (fun hnil => by simp [hnil]) IsExponent.isHexMark
      have hletter := hletter.isHexMark isHexMark_realSuffix
      intro char hchar
      simp only [List.mem_append, List.mem_cons] at hchar
      rcases hchar with hchar | rfl | hchar | hchar | hchar
      · exact isHexMark_of_isDigit (hwhole char hchar)
      · rfl
      · exact isHexMark_of_isDigit (hfraction char hchar)
      · exact hexponent char hchar
      · exact hletter char hchar
  | @scientific whole exponent letter hne hwhole hexponent hletter =>
      have hpointed : pointed? (whole ++ (exponent ++ letter) ++ rest) = none := by
        rw [List.append_assoc, List.append_assoc]
        refine pointed?_eq_none hwhole (hexponent.stopsAt _) ?_
        rcases hexponent.head?_append (letter ++ rest) with hhead | hhead <;>
          simp [hhead]
      have hscientific := covers_scientific? hwhole hne hexponent hletter rest
      refine .number? ?_ (.orElse_of_eq_none hpointed (.orElse hscientific _))
      have hletter := hletter.isHexMark isHexMark_realSuffix
      intro char hchar
      simp only [List.mem_append] at hchar
      rcases hchar with hchar | hchar | hchar
      · exact isHexMark_of_isDigit (hwhole char hchar)
      · exact hexponent.isHexMark char hchar
      · exact hletter char hchar
  | whole hne hdigits hletters =>
      refine .number? ?_ (covers_decimal?_of_letters hne hdigits hletters rest)
      intro char hchar
      rcases List.mem_append.mp hchar with hchar | hchar
      · exact isHexMark_of_isDigit (hdigits char hchar)
      · exact (hletters.of_mem hchar).2.2.2

/-! ## Longest numbers -/

structure IsLongestNumber (number chars : List Char) : Prop where
  isNumber : IsNumber number
  isPrefix : number <+: chars
  longest : ∀ other, other <+: chars → IsNumber other → other.length ≤ number.length

theorem number?_eq_some_iff {chars number : List Char} :
    number? chars = some number ↔ IsLongestNumber number chars := by
  constructor
  · intro h
    refine ⟨isNumber_of_number? h, number?_isPrefix h, ?_⟩
    rintro other ⟨rest, rfl⟩ hother
    obtain ⟨found, hfound, hlength⟩ := covers_number? hother rest
    rw [h, Option.some.injEq] at hfound
    exact hfound ▸ hlength
  · rintro ⟨hnumber, ⟨rest, rfl⟩, hlongest⟩
    obtain ⟨found, hfound, hlength⟩ := covers_number? hnumber rest
    have hprefix := number?_isPrefix hfound
    have hle := hlongest found hprefix (isNumber_of_number? hfound)
    have heq := (List.prefix_of_prefix_length_le (List.prefix_append number rest) hprefix
      hlength).eq_of_length (hlength.antisymm hle)
    rw [hfound, heq]

end Lexeme.Number

/-! ## Number literals of a source -/

namespace Lexeme

theorem number?_eq_none_of_ne {first : Char} (hdigit : first.isDigit = false)
    (hpoint : first ≠ '.') (others : List Char) : number? (first :: others) = none := by
  rw [← Option.not_isSome_iff_eq_none, isSome_number?]
  simp [Number.startsNumber, hdigit, hpoint]

private theorem isDigit_of_isIdentifierStart {first : Char} (h : isIdentifierStart first = true) :
    first.isDigit = false := by
  by_cases hunderscore : first = '_'
  · exact hunderscore ▸ rfl
  · have halpha : first.isAlpha = true := by simpa [isIdentifierStart, hunderscore] using h
    unfold Char.isAlpha Char.isUpper Char.isLower at halpha
    unfold Char.isDigit
    grind

section Form

variable {lexicon : Lexicon} {context : LineContext} {first : Char} {others : List Char}
  {lexeme : Lexeme} (h : Form lexicon context first others lexeme)

include h

theorem number?_eq_text_of_form (hcategory : lexeme.category = .numberLiteral) :
    number? (first :: others) = some lexeme.text := by
  cases h with
  | whitespace | lineComment | blockComment | stringLiteral | punctuation => contradiction
  | hash => cases context <;> contradiction
  | word => exact absurd hcategory (ne_wordCategory rfl _ _ _)
  | number _ hnumber => exact hnumber

private theorem category_of_form_of_number? {number : List Char}
    (hnumber : number? (first :: others) = some number) : lexeme.category = .numberLiteral := by
  cases h with
  | whitespace hspace =>
      have hnone : number? (first :: others) = none := by
        rcases eq_of_isSpace hspace with rfl | rfl | rfl | rfl | rfl | rfl <;>
          exact number?_eq_none_of_ne rfl (by decide) others
      rw [hnone] at hnumber
      contradiction
  | lineComment | blockComment | stringLiteral | hash =>
      rw [number?_eq_none_of_ne rfl (by decide)] at hnumber
      contradiction
  | word hstart =>
      rw [number?_eq_none_of_ne (isDigit_of_isIdentifierStart hstart)
        (ne_of_isIdentifierStart hstart rfl)] at hnumber
      contradiction
  | number => rfl
  | punctuation _ hnone =>
      obtain ⟨digit, digits, rfl⟩ := List.exists_cons_of_ne_nil (ne_nil_of_number? hnumber)
      exact absurd hnumber (hnone digit digits)

end Form

end Lexeme

open Lexeme.Number in
/-- What is read as numbers are the longest numbers of a source, wherever a token begins with
one. -/
structure ReadsLongestNumbers (stream : TokenStream) : Prop where
  longest : ∀ token ∈ stream.allTokens, token.category = .numberLiteral →
    IsLongestNumber token.text.toList (stream.source.toList.drop token.startOffset.toNat)
  category_iff : ∀ token ∈ stream.allTokens, token.category = .numberLiteral ↔
    ∃ front, front ≠ [] ∧ front <+: stream.source.toList.drop token.startOffset.toNat ∧
      IsNumber front

open Lexeme.Number in
/-- A number literal is the longest number that the source holds at its offset, and every token that
could begin a number is one. -/
theorem readsLongestNumbers (stream : TokenStream) : ReadsLongestNumbers stream where
  longest := by
    intro token htoken hcategory
    obtain ⟨context, first, others, lexeme, hdrop, hform, hcontent⟩ :=
      exists_form_of_mem_allTokens htoken
    have htext : token.text.toList = lexeme.text := by
      rw [show token.text = String.ofList lexeme.text from congrArg Prod.fst hcontent,
        String.toList_ofList]
    have hlexeme : lexeme.category = .numberLiteral :=
      (congrArg Prod.snd hcontent).symm.trans hcategory
    rw [hdrop, htext, ← number?_eq_some_iff]
    exact Lexeme.number?_eq_text_of_form hform hlexeme
  category_iff := by
    intro token htoken
    obtain ⟨context, first, others, lexeme, hdrop, hform, hcontent⟩ :=
      exists_form_of_mem_allTokens htoken
    have hcategory : token.category = lexeme.category := congrArg Prod.snd hcontent
    rw [hdrop, hcategory]
    constructor
    · intro hlexeme
      have hnumber := Lexeme.number?_eq_text_of_form hform hlexeme
      exact ⟨lexeme.text, lexeme.text_ne_nil, Lexeme.number?_isPrefix hnumber,
        Lexeme.isNumber_of_number? hnumber⟩
    · rintro ⟨front, -, ⟨rest, hrest⟩, hfront⟩
      obtain ⟨number, hnumber, -⟩ := covers_number? hfront rest
      rw [hrest] at hnumber
      exact Lexeme.category_of_form_of_number? hform hnumber

end ShaderTokens
