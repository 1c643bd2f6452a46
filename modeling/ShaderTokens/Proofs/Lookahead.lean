import ShaderTokens.Proofs.LineBoundary
import ShaderTokens.Proofs.LongestNumber
import ShaderTokens.Proofs.OpenConstruct

/-!
# How far ahead the scanner looks

Text that is appended to a source can change its last three tokens and no others.  Most lexemes are
settled by the character behind them; a number looks further, over the mark of an exponent and a
sign to the digit that may follow.
-/

namespace ShaderTokens

theorem isPrefix_append_cases {Item : Type} {front first second : List Item}
    (h : front <+: first ++ second) :
    front <+: first ∨ ∃ rest, front = first ++ rest ∧ rest <+: second := by
  rcases List.prefix_or_prefix_of_prefix h (List.prefix_append first second) with
    hfront | ⟨rest, rfl⟩
  · exact .inl hfront
  · exact .inr ⟨rest, rfl, (List.prefix_append_right_inj first).mp h⟩

/-! ## Front parts of numbers -/

namespace Lexeme.Number

theorem IsOptional.of_isPrefix {allowed letter front : List Char} (h : IsOptional allowed letter)
    (hfront : front <+: letter) : IsOptional allowed front := by
  rcases h with rfl | ⟨char, hchar, rfl⟩
  · exact .inl (List.prefix_nil.mp hfront)
  · rcases front with _ | ⟨first, rest⟩
    · exact .inl rfl
    · obtain ⟨rfl, hrest⟩ := List.cons_prefix_cons.mp hfront
      rw [List.prefix_nil.mp hrest]
      exact .inr ⟨first, hchar, rfl⟩

theorem IsWholeEnd.of_isPrefix {letters front : List Char} (h : IsWholeEnd letters)
    (hfront : front <+: letters) : IsWholeEnd front :=
  h.imp (fun hall char hchar => hall char (hfront.subset hchar)) (·.of_isPrefix hfront)

/-- An exponent may lack its digits, but not more than that. -/
theorem IsExponent.of_isPrefix {exponent front : List Char} (h : IsExponent exponent)
    (hfront : front <+: exponent) : IsExponent front ∨ front.length ≤ 2 := by
  obtain @⟨mark, sign, power, hmark, hsign, hne, hpower⟩ := h
  have hsignLength : sign.length ≤ 1 := by
    rcases hsign with rfl | ⟨char, -, rfl⟩ <;> simp
  rcases front with _ | ⟨first, rest⟩
  · exact .inr (Nat.zero_le _)
  · obtain ⟨rfl, hrest⟩ := List.cons_prefix_cons.mp hfront
    rcases isPrefix_append_cases hrest with hrest | ⟨digits, rfl, hdigits⟩
    · right
      have hlength := hrest.length_le
      rw [List.length_cons]
      omega
    · by_cases hempty : digits = []
      · right
        simpa [hempty] using hsignLength
      · exact .inl (.intro hmark hsign hempty fun char hchar => hpower char (hdigits.subset hchar))

theorem isNumber_of_digits {digits : List Char} (hne : digits ≠ [])
    (hdigits : ∀ char ∈ digits, char.isDigit = true) : IsNumber digits := by
  rw [← List.append_nil digits]
  exact .whole hne hdigits (.inr (.inl rfl))

theorem isNumber_of_point {whole fraction : List Char}
    (hwhole : ∀ char ∈ whole, char.isDigit = true)
    (hfraction : ∀ char ∈ fraction, char.isDigit = true) (hne : whole ≠ [] ∨ fraction ≠ []) :
    IsNumber (whole ++ '.' :: fraction) := by
  have hnumber := IsNumber.pointed hwhole hfraction hne (.inl rfl) (.inl rfl)
  rwa [List.append_nil, List.append_nil] at hnumber

/-- A number, but for the last two characters. -/
def IsNearNumber (text : List Char) : Prop :=
  ∃ number, number <+: text ∧ IsNumber number ∧ text.length ≤ number.length + 2

theorem IsNumber.isNearNumber {number : List Char} (h : IsNumber number) : IsNearNumber number :=
  ⟨number, List.prefix_rfl, h, Nat.le_add_right _ _⟩

theorem IsNumber.isNearNumber_append {number last : List Char} (h : IsNumber number)
    (hlast : last.length ≤ 2) : IsNearNumber (number ++ last) := by
  refine ⟨number, List.prefix_append _ _, h, ?_⟩
  rw [List.length_append]
  omega

theorem isNearNumber_of_digits {front whole : List Char} (hne : front ≠ [])
    (hwhole : ∀ char ∈ whole, char.isDigit = true) (h : front <+: whole) : IsNearNumber front :=
  (isNumber_of_digits hne fun char hchar => hwhole char (h.subset hchar)).isNearNumber

section Front

variable {front whole exponent letter : List Char}
  (hwhole : ∀ char ∈ whole, char.isDigit = true)
  (hletter : IsOptional ['f', 'F', 'h', 'H', 'l', 'L'] letter)

include hwhole hletter

private theorem isNearNumber_of_pointed {fraction : List Char} (hlength : 3 ≤ front.length)
    (hfraction : ∀ char ∈ fraction, char.isDigit = true) (hne : whole ≠ [] ∨ fraction ≠ [])
    (hexponent : exponent = [] ∨ IsExponent exponent)
    (h : front <+: whole ++ '.' :: (fraction ++ (exponent ++ letter))) : IsNearNumber front := by
  have hfrontNe : front ≠ [] := List.ne_nil_of_length_pos (by omega)
  rcases isPrefix_append_cases h with hdigits | ⟨point, rfl, hpoint⟩
  · exact isNearNumber_of_digits hfrontNe hwhole hdigits
  rcases point with _ | ⟨point, rest⟩
  · rw [List.append_nil] at hfrontNe ⊢
    exact (isNumber_of_digits hfrontNe hwhole).isNearNumber
  obtain ⟨rfl, hrest⟩ := List.cons_prefix_cons.mp hpoint
  rcases isPrefix_append_cases hrest with hdigits | ⟨tail, rfl, htail⟩
  · -- A point alone would be too short.
    have hrestNe : whole ≠ [] ∨ rest ≠ [] := by
      by_contra hempty
      simp only [not_or, not_not] at hempty
      simp [hempty.1, hempty.2] at hlength
    exact (isNumber_of_point hwhole (fun char hchar => hfraction char (hdigits.subset hchar))
      hrestNe).isNearNumber
  rcases isPrefix_append_cases htail with hpower | ⟨last, rfl, hlast⟩
  · have hcases : (tail = [] ∨ IsExponent tail) ∨ tail.length ≤ 2 := by
      rcases hexponent with rfl | hexponent
      · exact .inl (.inl (List.prefix_nil.mp hpower))
      · exact (hexponent.of_isPrefix hpower).imp_left .inr
    rcases hcases with hexact | hshort
    · rw [← List.append_nil tail]
      exact (IsNumber.pointed hwhole hfraction hne hexact (.inl rfl)).isNearNumber
    · rw [← List.cons_append, ← List.append_assoc]
      exact (isNumber_of_point hwhole hfraction hne).isNearNumber_append hshort
  · exact (IsNumber.pointed hwhole hfraction hne hexponent
      (hletter.of_isPrefix hlast)).isNearNumber

private theorem isNearNumber_of_scientific (hfrontNe : front ≠ []) (hne : whole ≠ [])
    (hexponent : IsExponent exponent) (h : front <+: whole ++ (exponent ++ letter)) :
    IsNearNumber front := by
  rcases isPrefix_append_cases h with hdigits | ⟨tail, rfl, htail⟩
  · exact isNearNumber_of_digits hfrontNe hwhole hdigits
  rcases isPrefix_append_cases htail with hpower | ⟨last, rfl, hlast⟩
  · rcases hexponent.of_isPrefix hpower with hexact | hshort
    · rw [← List.append_nil tail]
      exact (IsNumber.scientific hne hwhole hexact (.inl rfl)).isNearNumber
    · exact (isNumber_of_digits hne hwhole).isNearNumber_append hshort
  · exact (IsNumber.scientific hne hwhole hexponent (hletter.of_isPrefix hlast)).isNearNumber

end Front

private theorem isNumber_of_hexadecimal {mark : Char} {digits letters front : List Char}
    (hmark : mark ∈ ['x', 'X']) (hne : digits ≠ []) (hdigits : ∀ char ∈ digits, IsHexDigit char)
    (hletters : ∀ char ∈ letters, char ∈ ['u', 'U', 'l', 'L'])
    (h : front <+: '0' :: mark :: (digits ++ letters)) (hlength : 3 ≤ front.length) :
    IsNumber front := by
  rcases front with _ | ⟨zero, _ | ⟨second, rest⟩⟩
  · simp at hlength
  · simp at hlength
  rw [List.cons_prefix_cons, List.cons_prefix_cons] at h
  obtain ⟨rfl, rfl, hrest⟩ := h
  rcases isPrefix_append_cases hrest with hfront | ⟨last, rfl, hlast⟩
  · have hrestNe : rest ≠ [] := by
      rintro rfl
      simp at hlength
    rw [← List.append_nil rest]
    exact .hexadecimal hmark hrestNe (fun char hchar => hdigits char (hfront.subset hchar))
      (by simp)
  · exact .hexadecimal hmark hne hdigits fun char hchar => hletters char (hlast.subset hchar)

/-- What begins a number is a number itself, but for the mark and the sign of an exponent. -/
theorem IsNumber.isNearNumber_of_isPrefix {number front : List Char} (h : IsNumber number)
    (hfront : front <+: number) (hlength : 3 ≤ front.length) : IsNearNumber front := by
  have hfrontNe : front ≠ [] := List.ne_nil_of_length_pos (by omega)
  cases h with
  | hexadecimal hmark hne hdigits hletters =>
      exact (isNumber_of_hexadecimal hmark hne hdigits hletters hfront hlength).isNearNumber
  | pointed hwhole hfraction hne hexponent hletter =>
      exact isNearNumber_of_pointed hwhole hletter hlength hfraction hne hexponent hfront
  | scientific hne hwhole hexponent hletter =>
      exact isNearNumber_of_scientific hwhole hletter hfrontNe hne hexponent hfront
  | whole hne hdigits hletters =>
      rcases isPrefix_append_cases hfront with hfront | ⟨last, rfl, hlast⟩
      · exact isNearNumber_of_digits hfrontNe hdigits hfront
      · exact (IsNumber.whole hne hdigits (hletters.of_isPrefix hlast)).isNearNumber

private theorem number?_append_of_length {chars number : List Char}
    (h : number? chars = some number)
    (hlength : number.length + 3 ≤ chars.length) (following : List Char) :
    number? (chars ++ following) = some number := by
  have hlongest := number?_eq_some_iff.mp h
  refine number?_eq_some_iff.mpr
    ⟨hlongest.isNumber, hlongest.isPrefix.trans (List.prefix_append _ _), ?_⟩
  intro other hprefix hother
  rcases List.prefix_or_prefix_of_prefix hprefix (List.prefix_append chars following) with
    hwithin | hbeyond
  · exact hlongest.longest other hwithin hother
  · -- a number that went on would show in the three characters
    obtain ⟨shorter, hshorter, hnumber, hshorterLength⟩ :=
      hother.isNearNumber_of_isPrefix hbeyond (by omega)
    have hle := hlongest.longest shorter hshorter hnumber
    omega

end Lexeme.Number

/-! ## Lexemes with three characters behind them -/

namespace Lexeme

theorem takeWhile_append_of_length_lt {isMember : Char → Bool} {chars : List Char}
    (h : (chars.takeWhile isMember).length < chars.length) (following : List Char) :
    (chars ++ following).takeWhile isMember = chars.takeWhile isMember := by
  rw [List.takeWhile_append, if_neg h.ne]

private theorem lineFeed_mem_of_length_lt {body : List Char}
    (h : (lineCommentBody body).length < body.length) : '\n' ∈ body := by
  fun_induction lineCommentBody body with
  | case1 => contradiction
  | case2 | case3 => simp
  | case4 char others _ _ ih =>
      exact List.mem_cons_of_mem _ (ih (by simpa using h))

private theorem isClosed_blockCommentBody_of_length_lt {body : List Char}
    (h : (blockCommentBody body).text.length < body.length) :
    (blockCommentBody body).isClosed = true := by
  by_contra hopen
  rw [text_blockCommentBody_of_not_isClosed (by simpa using hopen)] at h
  exact lt_irrefl _ h

private theorem isClosed_stringBody_of_length_lt {body : List Char}
    (h : (stringBody body).text.length < body.length) : (stringBody body).isClosed = true := by
  by_contra hopen
  rw [text_stringBody_of_not_isClosed (by simpa using hopen)] at h
  exact lt_irrefl _ h

section Append

variable {first : Char} {others : List Char} (hothers : others ≠ []) (following : List Char)

include hothers

theorem IsBare.append (h : IsBare first others) : IsBare first (others ++ following) := by
  obtain ⟨next, others, rfl⟩ := List.exists_cons_of_ne_nil hothers
  exact { h with }

private theorem number?_append_of_startsNumber (h : Number.startsNumber (first :: others) = false) :
    number? (first :: (others ++ following)) = none := by
  obtain ⟨next, others, rfl⟩ := List.exists_cons_of_ne_nil hothers
  rw [← Option.not_isSome_iff_eq_none, isSome_number?]
  exact Bool.eq_false_iff.mp h

end Append

private theorem read_append_of_length {lexicon : Lexicon} {context : LineContext} {first : Char}
    {others : List Char}
    (h : (read lexicon context first others).text.length + 3 ≤ (first :: others).length)
    (following : List Char) :
    read lexicon context first (others ++ following) = read lexicon context first others := by
  have hform := form_read lexicon context first others
  generalize hread : read lexicon context first others = lexeme at hform h ⊢
  have hothers : others ≠ [] := by
    rintro rfl
    simp at h
  cases hform with
  | whitespace hspace =>
      have hlength : (others.takeWhile isSpace).length < others.length := by
        simp [whitespace] at h
        omega
      rw [read_of_isSpace lexicon context hspace]
      simp only [whitespace, takeWhile_append_of_length_lt hlength]
  | lineComment body =>
      have hfeed : '\n' ∈ body := lineFeed_mem_of_length_lt (by
        simp [lineComment] at h
        omega)
      rw [List.cons_append, read_lineComment]
      simp only [lineComment, lineCommentBody_append_of_lineFeed hfeed]
  | blockComment body =>
      have hclosed : (blockCommentBody body).isClosed = true :=
        isClosed_blockCommentBody_of_length_lt (by
          simp [blockComment] at h
          omega)
      rw [List.cons_append, read_blockComment]
      simp only [blockComment, blockCommentBody_append hclosed]
  | stringLiteral =>
      have hclosed : (stringBody others).isClosed = true :=
        isClosed_stringBody_of_length_lt (by
          simp [stringLiteral] at h
          omega)
      rw [read_stringLiteral]
      simp only [stringLiteral, stringBody_append_of_isClosed hclosed]
  | hash =>
      obtain ⟨next, others, rfl⟩ := List.exists_cons_of_ne_nil hothers
      rw [read_hash]
      rfl
  | word hstart =>
      have hlength : (others.takeWhile isIdentifierPart).length < others.length := by
        simp [word] at h
        omega
      rw [read_of_isIdentifierStart lexicon context hstart]
      simp only [word, takeWhile_append_of_length_lt hlength]
  | number hbare hnumber =>
      have hsettled := Number.number?_append_of_length hnumber h following
      rw [List.cons_append] at hsettled
      rw [read_of_isBare lexicon context (hbare.append hothers following)]
      simp only [numberOrPunctuation, hsettled]
  | punctuation hbare hnumber =>
      have hstarts := startsNumber_eq_false hnumber
      have hsettled := number?_append_of_startsNumber hothers following hstarts
      rw [read_of_isBare lexicon context (hbare.append hothers following)]
      simp only [numberOrPunctuation, hsettled]

end Lexeme

/-! ## All but the last three lexemes -/

private theorem length_le_length_textOf (lexemes : List Lexeme) :
    lexemes.length ≤ (textOf lexemes).length := by
  induction lexemes with
  | nil => exact Nat.le_refl _
  | cons lexeme lexemes ih =>
      have hpositive := List.length_pos_iff.mpr lexeme.text_ne_nil
      rw [textOf_cons, List.length_append, List.length_cons]
      omega

theorem Cut.isPrefix_lexemes_append {lexicon : Lexicon} {context : LineContext}
    {chars : List Char} {kept last : List Lexeme} (h : Cut lexicon context chars (kept ++ last))
    (hlast : last.length = 3) (following : List Char) :
    kept <+: lexemes lexicon context (chars ++ following) := by
  induction kept generalizing context chars with
  | nil => exact List.nil_prefix
  | cons lexeme kept ih =>
      rw [List.cons_append] at h
      cases h with
      | @next _ first others rest _ _ hread htext hrest =>
          subst hread
          -- every lexeme behind this one has a character
          have hbehind := length_le_length_textOf (kept ++ last)
          rw [hrest.textOf_eq, List.length_append] at hbehind
          have hlength : (Lexeme.read lexicon context first others).text.length + 3 ≤
              (first :: others).length := by
            rw [htext, List.length_append]
            omega
          rw [List.cons_append, lexemes_cons, Lexeme.read_append_of_length hlength,
            ← List.cons_append, htext, List.append_assoc, List.drop_left]
          exact List.cons_prefix_cons.mpr ⟨rfl, ih hrest⟩

/-! ## All but the last three tokens -/

theorem placed_isPrefix {kept lexemes : List Lexeme} (h : kept <+: lexemes) (start : Position) :
    placed start kept <+: placed start lexemes := by
  obtain ⟨later, rfl⟩ := h
  rw [placed_append]
  exact List.prefix_append _ _

@[simp] theorem length_placed (start : Position) (lexemes : List Lexeme) :
    (placed start lexemes).length = lexemes.length := by
  induction lexemes generalizing start with
  | nil => rfl
  | cons lexeme lexemes ih => rw [placed, List.length_cons, List.length_cons, ih]

theorem rdrop_append_isPrefix {Item : Type} (kept : List Item) {last : List Item} {count : Nat}
    (hlast : last.length ≤ count) : (kept ++ last).rdrop count <+: kept := by
  rw [List.rdrop, List.length_append, List.take_append_of_le_length (by omega)]
  exact List.take_prefix _ _

section Streams

variable (lexicon : Lexicon) (filename first second : String)

private theorem exists_kept_allTokens :
    ∃ kept last, (TokenStream.mk lexicon first filename).allTokens = kept ++ last ∧
      last.length ≤ 3 ∧ kept <+: (TokenStream.mk lexicon (first ++ second) filename).allTokens := by
  have hcut := (TokenStream.mk lexicon first filename).cut
  simp only [TokenStream.allTokens, TokenStream.scan_eq_placed]
  generalize (TokenStream.mk lexicon first filename).lexemes = lexemes at hcut
  by_cases hlength : lexemes.length < 3
  · exact ⟨[], _, rfl, by simpa using hlength.le, List.nil_prefix⟩
  · rw [← List.take_append_drop (lexemes.length - 3) lexemes] at hcut ⊢
    have hlast : (lexemes.drop (lexemes.length - 3)).length = 3 := by
      rw [List.length_drop]
      omega
    have hkept := hcut.isPrefix_lexemes_append hlast second.toList
    rw [← String.toList_append] at hkept
    refine ⟨_, _, by rw [placed_append, List.map_append], ?_, (placed_isPrefix hkept _).map _⟩
    simp only [List.length_map, length_placed, hlast, le_refl]

/-- Appending to a source changes none of its tokens but the last three. -/
theorem rdrop_tokens_isPrefix (includeWhitespace : Bool) :
    let stream := fun source => TokenStream.mk lexicon source filename
    ((stream first).tokens includeWhitespace).rdrop 3 <+:
      (stream (first ++ second)).tokens includeWhitespace := by
  intro stream
  obtain ⟨kept, last, hwhole, hlast, hkept⟩ :=
    exists_kept_allTokens lexicon filename first second
  rw [TokenStream.tokens, hwhole, List.filter_append]
  exact (rdrop_append_isPrefix _ ((List.length_filter_le _ _).trans hlast)).trans
    (hkept.filter _)

end Streams

example :
    let stream := fun source => TokenStream.mk ⟨[]⟩ source "input.hlsl"
    ((stream "1e+").tokens true).map Token.text = ["1", "e", "+"] ∧
      ((stream ("1e+" ++ "5")).tokens true).map Token.text = ["1e+5"] := by
  decide +kernel

end ShaderTokens
