import ShaderTokens.Proofs.ClosingDelimiter
import ShaderTokens.Proofs.PreprocessorLine

/-!
# Shapes of tokens

Runs of white space, line comments and words are as long as they can be.  A word is told from its
text and the character behind it alone, and what is left over is a single character.
-/

namespace ShaderTokens

/-! ## Classes of characters -/

def spaces : List Char := [' ', '\t', '\r', '\n', '\x0c', '\x0b']

def IsDecimalDigit (char : Char) : Prop := '0' ≤ char ∧ char ≤ '9'

def StartsIdentifier (char : Char) : Prop :=
  ('A' ≤ char ∧ char ≤ 'Z') ∨ ('a' ≤ char ∧ char ≤ 'z') ∨ char = '_'

def ContinuesIdentifier (char : Char) : Prop := StartsIdentifier char ∨ IsDecimalDigit char

instance : DecidablePred IsDecimalDigit := fun _ => inferInstanceAs (Decidable (_ ∧ _))

instance : DecidablePred StartsIdentifier := fun _ => inferInstanceAs (Decidable (_ ∨ _ ∨ _))

def IsIdentifier : List Char → Prop
  | [] => False
  | first :: others => StartsIdentifier first ∧ ∀ char ∈ others, ContinuesIdentifier char

theorem isSpace_iff {char : Char} : Lexeme.isSpace char = true ↔ char ∈ spaces := by
  simp [Lexeme.isSpace, spaces, or_assoc]

theorem isDigit_iff {char : Char} : char.isDigit = true ↔ IsDecimalDigit char := by
  simp [Char.isDigit, IsDecimalDigit, Char.le_def]

theorem isIdentifierStart_iff {char : Char} :
    isIdentifierStart char = true ↔ StartsIdentifier char := by
  unfold isIdentifierStart Char.isAlpha Char.isUpper Char.isLower
  simp only [StartsIdentifier, Char.le_def, Bool.or_eq_true, Bool.and_eq_true, decide_eq_true_eq]
  exact or_comm.trans or_assoc

theorem isIdentifierPart_iff {char : Char} :
    isIdentifierPart char = true ↔ ContinuesIdentifier char := by
  rw [isIdentifierPart, Bool.or_eq_true, isIdentifierStart_iff, isDigit_iff, ContinuesIdentifier]

theorem isIdentifierShaped_iff {text : String} :
    isIdentifierShaped text = true ↔ IsIdentifier text.toList := by
  unfold isIdentifierShaped
  cases text.toList with
  | nil => simp [IsIdentifier]
  | cons first others => simp [IsIdentifier, isIdentifierStart_iff, isIdentifierPart_iff]

/-! ## Runs -/

theorem stopsAt_drop_takeWhile {Item : Type} (isMember : Item → Bool) (items : List Item) :
    StopsAt isMember (items.drop (items.takeWhile isMember).length) := by
  induction items with
  | nil => exact stopsAt_nil isMember
  | cons item items ih =>
      cases hitem : isMember item with
      | true => simpa [hitem] using ih
      | false => simp [hitem]

/-- A line comment can end at an index: the source does, or the line, be it with a line feed alone
or with a carriage return before it. -/
def EndsLineComment (source : List Char) (index : Nat) : Prop :=
  index = source.length ∨ source[index]? = some '\n' ∨
    (source[index]? = some '\r' ∧ source[index + 1]? = some '\n')

private theorem endsLineComment_add {source rest : List Char} {start : Nat}
    (hdrop : source.drop start = rest) (hrest : rest ≠ []) (index : Nat) :
    EndsLineComment source (index + start) ↔ EndsLineComment rest index := by
  have hlength : source.length = rest.length + start := by
    have hpositive := List.length_pos_iff.mpr hrest
    rw [← hdrop, List.length_drop] at hpositive ⊢
    omega
  rw [EndsLineComment, EndsLineComment, hlength, ← hdrop, List.getElem?_drop, List.getElem?_drop,
    Nat.add_right_cancel_iff, Nat.add_comm index start, Nat.add_assoc]

theorem Lexeme.isLeast_lineCommentBody (body : List Char) :
    IsLeast {index | EndsLineComment body index} (lineCommentBody body).length := by
  fun_induction lineCommentBody body with
  | case1 => exact ⟨.inl rfl, fun index _ => Nat.zero_le index⟩
  | case2 => exact ⟨.inr (.inl rfl), fun index _ => Nat.zero_le index⟩
  | case3 => exact ⟨.inr (.inr ⟨rfl, rfl⟩), fun index _ => Nat.zero_le index⟩
  | case4 char others hfeed hreturn ih =>
      have hshift : ∀ index, EndsLineComment (char :: others) (index + 1) ↔
          EndsLineComment others index := by
        intro index
        rw [EndsLineComment, List.length_cons, Nat.add_right_cancel_iff]
        rfl
      refine isLeast_add ih ?_ hshift
      rintro (_ | index) hends
      · rcases hends with hends | hends | ⟨hfirst, hsecond⟩
        · contradiction
        · exact absurd (Option.some.inj hends) hfeed
        · obtain ⟨after, rfl⟩ := List.head?_eq_some_iff.mp (List.head?_eq_getElem?.trans hsecond)
          exact (hreturn after (Option.some.inj hfirst) rfl).elim
      · exact Nat.le_add_left 1 index

/-! ## Lexemes and what stands behind them -/

/-- A character that is a token of its own, by the character behind it. -/
structure IsMark (char : Char) (next : Option Char) : Prop where
  not_space : char ∉ spaces
  not_quote : char ≠ '"'
  not_identifier : ¬ StartsIdentifier char
  not_digit : ¬ IsDecimalDigit char
  not_number : char = '.' → ∀ digit ∈ next, ¬ IsDecimalDigit digit
  not_comment : char = '/' → ∀ second ∈ next, second ≠ '/' ∧ second ≠ '*'

namespace Lexeme

variable {lexicon : Lexicon} {context : LineContext} {first : Char} {others : List Char}
  {lexeme : Lexeme}

private theorem isWhitespace_iff_of_form (h : Form lexicon context first others lexeme) :
    lexeme.category = .whitespace ↔
      (∀ char ∈ lexeme.text, char ∈ spaces) ∧
        StopsAt isSpace ((first :: others).drop lexeme.text.length) := by
  constructor
  · intro hcategory
    cases h with
    | whitespace hspace =>
        refine ⟨?_, stopsAt_drop_takeWhile isSpace others⟩
        intro char hchar
        rcases List.mem_cons.mp hchar with rfl | hrun
        · exact isSpace_iff.mp hspace
        · exact isSpace_iff.mp (List.mem_takeWhile_imp hrun)
    | lineComment | blockComment | stringLiteral | number | punctuation => contradiction
    | hash => cases context <;> contradiction
    | word => exact absurd hcategory (ne_wordCategory rfl _ _ _)
  · rintro ⟨hspaces, -⟩
    have hspace := isSpace_iff.mpr (hspaces first (List.mem_of_head? (head?_text_of_form h)))
    rw [← read_eq_of_form h, read_of_isSpace lexicon context hspace]
    rfl

private theorem isWord_iff_of_form (h : Form lexicon context first others lexeme) :
    lexeme.category.isWord = true ↔
      (IsIdentifier lexeme.text ∧
          StopsAt isIdentifierPart ((first :: others).drop lexeme.text.length)) ∨
        ((lexeme.text = ['#'] ∨ lexeme.text = ['#', '#']) ∧
          lexeme.category = .preprocessorOperator) := by
  constructor
  · intro hword
    cases h with
    | whitespace | lineComment | blockComment | stringLiteral | number | punctuation =>
        contradiction
    | hash =>
        cases context with
        | blank | code => contradiction
        | directiveName | directive =>
            refine .inr ⟨?_, rfl⟩
            cases others with
            | nil => exact .inl rfl
            | cons next others => by_cases hnext : next = '#' <;> simp [hash, Number.suffix, hnext]
    | word hstart =>
        refine .inl ⟨⟨isIdentifierStart_iff.mp hstart, ?_⟩,
          stopsAt_drop_takeWhile isIdentifierPart others⟩
        intro char hchar
        exact isIdentifierPart_iff.mp (List.mem_takeWhile_imp hchar)
  · rintro (⟨hidentifier, -⟩ | ⟨-, hcategory⟩)
    · obtain ⟨chars, htext⟩ := List.head?_eq_some_iff.mp (head?_text_of_form h)
      rw [htext] at hidentifier
      rw [eq_word_of_form h (isIdentifierStart_iff.mpr hidentifier.1)]
      exact isWord_wordCategory lexicon context _
    · rw [hcategory]
      rfl

private theorem isMark_of_isBare (hbare : IsBare first others)
    (hnumber : Number.startsNumber (first :: others) = false) : IsMark first others.head? := by
  simp only [Number.startsNumber, Bool.or_eq_false_iff, Bool.and_eq_false_imp,
    decide_eq_true_eq] at hnumber
  refine ⟨?_, hbare.not_quote, ?_, ?_, ?_, hbare.not_comment⟩
  · exact mt isSpace_iff.mpr (by simp [hbare.not_space])
  · exact mt isIdentifierStart_iff.mpr (by simp [hbare.not_word])
  · exact mt isDigit_iff.mpr (by simp [hnumber.1])
  · intro hpoint digit hdigit
    have hnone := hnumber.2 hpoint
    rw [Option.mem_def.mp hdigit] at hnone
    exact mt isDigit_iff.mpr (by simpa using hnone)

private theorem startsNumber_of_isMark (h : IsMark first others.head?) :
    Number.startsNumber (first :: others) = false := by
  simp only [Number.startsNumber, Bool.or_eq_false_iff, Bool.and_eq_false_imp, decide_eq_true_eq]
  refine ⟨by simpa using mt isDigit_iff.mp h.not_digit, fun hpoint => ?_⟩
  cases others with
  | nil => rfl
  | cons digit others =>
      simpa using mt isDigit_iff.mp (h.not_number hpoint digit rfl)

private theorem isPunctuation_iff_of_form (h : Form lexicon context first others lexeme) :
    lexeme.category = .punctuation ↔
      lexeme.category ≠ .preprocessorOperator ∧
        ∃ char, lexeme.text = [char] ∧
          IsMark char ((first :: others).drop lexeme.text.length).head? := by
  constructor
  · intro hcategory
    refine ⟨by simp [hcategory], first, ?_⟩
    cases h with
    | whitespace | lineComment | blockComment | stringLiteral | number => contradiction
    | hash =>
        cases context with
        | blank | code => exact ⟨rfl, by decide, by decide, by decide, by decide, by simp, by simp⟩
        | directiveName | directive => contradiction
    | word => exact absurd hcategory (ne_wordCategory rfl _ _ _)
    | punctuation hbare hnumber =>
        exact ⟨rfl, isMark_of_isBare hbare (startsNumber_eq_false hnumber)⟩
  · rintro ⟨hoperator, char, htext, hmark⟩
    obtain rfl : first = char := by
      have hhead := head?_text_of_form h
      rw [htext] at hhead
      exact (Option.some.inj hhead).symm
    replace hmark : IsMark first others.head? := by simpa [htext] using hmark
    cases h with
    | whitespace hspace => exact absurd (isSpace_iff.mp hspace) hmark.not_space
    | lineComment | blockComment => simp [lineComment, blockComment] at htext
    | stringLiteral => exact absurd rfl hmark.not_quote
    | hash =>
        cases context with
        | blank | code => rfl
        | directiveName | directive => contradiction
    | word hstart => exact absurd (isIdentifierStart_iff.mp hstart) hmark.not_identifier
    | number hbare hnumber =>
        have hstarts := isSome_number? (first :: others)
        rw [hnumber, startsNumber_of_isMark hmark] at hstarts
        contradiction
    | punctuation => rfl

end Lexeme

/-! ## Tokens -/

def TokenStream.behind? (stream : TokenStream) (token : Token) : Option Char :=
  stream.source.toList[token.endOffset.toNat]?

theorem stopsAt_iff {isMember : Char → Bool} {IsMember : Char → Prop}
    (h : ∀ {char}, isMember char = true ↔ IsMember char) {rest : List Char} :
    StopsAt isMember rest ↔ ∀ char ∈ rest.head?, ¬ IsMember char := by
  simp only [StopsAt, ← h, Bool.not_eq_true]

section Token

variable {stream : TokenStream} {token : Token} (htoken : token ∈ stream.allTokens)

include htoken

theorem exists_form_behind :
    ∃ context first others lexeme, Lexeme.Form stream.lexicon context first others lexeme ∧
      token.text.toList = lexeme.text ∧ token.category = lexeme.category ∧
      stream.behind? token = ((first :: others).drop lexeme.text.length).head? := by
  obtain ⟨context, first, others, lexeme, hdrop, hform, hcontent⟩ :=
    exists_form_of_mem_allTokens htoken
  have htext := toList_text_of_content hcontent
  refine ⟨context, first, others, lexeme, hform, htext, congrArg Prod.snd hcontent, ?_⟩
  rw [TokenStream.behind?, endOffset_of_mem_allTokens htoken, htext, ← hdrop, List.drop_drop,
    List.head?_drop, ← Int.natCast_add, Int.toNat_natCast]

private theorem toList_text_of_lineComment {body : List Char}
    (hdrop : stream.source.toList.drop token.startOffset.toNat = '/' :: '/' :: body) :
    token.text.toList = '/' :: '/' :: Lexeme.lineCommentBody body := by
  obtain ⟨context, htext⟩ := exists_toList_text_of_drop htoken hdrop
  rw [htext, Lexeme.read_lineComment]
  rfl

end Token

/-- What each kind of token looks like.  White space, line comments and words go on as far as they
can, and whether a token is a word or a punctuation character shows in its text and in the character
behind it. -/
structure IsShaped (stream : TokenStream) : Prop where
  whitespace : ∀ token ∈ stream.allTokens, token.category = .whitespace ↔
    token.text ≠ "" ∧ (∀ char ∈ token.text.toList, char ∈ spaces) ∧
      ∀ char ∈ stream.behind? token, char ∉ spaces
  lineComments : ∀ token ∈ stream.allTokens, token.category = .comment →
    ['/', '/'] <+: token.text.toList →
      ∃ stop : Nat, token.endOffset = stop ∧
        IsLeast {index | token.startOffset.toNat ≤ index ∧
          EndsLineComment stream.source.toList index} stop
  words : ∀ token ∈ stream.allTokens, token.category.isWord = true ↔
    (IsIdentifier token.text.toList ∧
        ∀ char ∈ stream.behind? token, ¬ ContinuesIdentifier char) ∨
      ((token.text = "#" ∨ token.text = "##") ∧ token.category = .preprocessorOperator)
  punctuation : ∀ token ∈ stream.allTokens, token.category = .punctuation ↔
    token.category ≠ .preprocessorOperator ∧
      ∃ char, token.text = String.singleton char ∧ IsMark char (stream.behind? token)

theorem isShaped (stream : TokenStream) : IsShaped stream where
  whitespace := by
    intro token htoken
    obtain ⟨context, first, others, lexeme, hform, htext, hcategory, hbehind⟩ :=
      exists_form_behind htoken
    have hnonempty := (tiles_allTokens stream).nonempty token htoken
    rw [hcategory, Lexeme.isWhitespace_iff_of_form hform, stopsAt_iff isSpace_iff, htext, hbehind,
      and_iff_right hnonempty]
  lineComments := by
    intro token htoken _ hopens
    obtain ⟨body, hdrop : _ = '/' :: '/' :: body⟩ := exists_drop_of_isPrefix htoken hopens
    -- the opening slashes cannot end the comment, so they count as part of its body
    have hleast := Lexeme.isLeast_lineCommentBody ('/' :: '/' :: body)
    have hend : token.endOffset =
        ((Lexeme.lineCommentBody ('/' :: '/' :: body)).length + token.startOffset.toNat : Nat) := by
      rw [endOffset_of_mem_allTokens htoken, toList_text_of_lineComment htoken hdrop, Nat.add_comm,
        Int.natCast_add]
      rfl
    refine ⟨_, hend, isLeast_add hleast (fun _ hindex => hindex.1) ?_⟩
    intro index
    rw [endsLineComment_add hdrop (by simp)]
    exact and_iff_right (Nat.le_add_left _ _)
  words := by
    intro token htoken
    obtain ⟨context, first, others, lexeme, hform, htext, hcategory, hbehind⟩ :=
      exists_form_behind htoken
    rw [hcategory, Lexeme.isWord_iff_of_form hform, stopsAt_iff isIdentifierPart_iff, htext,
      hbehind, ← htext, ← String.toList_inj, ← String.toList_inj]
    rfl
  punctuation := by
    intro token htoken
    obtain ⟨context, first, others, lexeme, hform, htext, hcategory, hbehind⟩ :=
      exists_form_behind htoken
    simp only [hcategory, Lexeme.isPunctuation_iff_of_form hform, hbehind, ← htext,
      ← String.toList_inj, String.toList_singleton]

example :
    ((TokenStream.mk ⟨[]⟩ "a1//b\rc\r\n.;" "input.hlsl").tokens true).map Token.text =
      ["a1", "//b\rc", "\r\n", ".", ";"] := by
  decide +kernel

end ShaderTokens
