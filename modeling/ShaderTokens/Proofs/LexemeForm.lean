import ShaderTokens.Proofs.NumberLiteral
import ShaderTokens.Scanner

/-!
# Forms of lexemes

What a lexeme looks like follows from how the text that it is read from begins.  The forms are
listed once, each with its condition; what holds of every lexeme is shown form by form.
-/

namespace ShaderTokens

def Category.isGap : Category → Bool
  | .whitespace | .comment => true
  | _ => false

namespace Lexeme

/-! ## Comments and strings are front parts -/

theorem lineCommentBody_isPrefix (body : List Char) : lineCommentBody body <+: body := by
  fun_induction lineCommentBody body with
  | case1 | case2 | case3 => exact List.nil_prefix
  | case4 char others _ _ ih => simpa using ih

private theorem lineFeed_notMem_lineCommentBody (body : List Char) :
    '\n' ∉ lineCommentBody body := by
  fun_induction lineCommentBody body with
  | case1 | case2 | case3 => exact List.not_mem_nil
  | case4 char others hfeed _ ih =>
      simp only [List.mem_cons, not_or]
      exact ⟨fun heq => hfeed heq.symm, ih⟩

theorem blockCommentBody_isPrefix (body : List Char) : (blockCommentBody body).text <+: body := by
  fun_induction blockCommentBody body with
  | case1 => exact List.nil_prefix
  | case2 others => exact ⟨others, rfl⟩
  | case3 char others _ ih => simpa [Delimited.cons] using ih

theorem stringBody_isPrefix (body : List Char) : (stringBody body).text <+: body := by
  fun_induction stringBody body with
  | case1 => exact List.nil_prefix
  | case2 others => exact ⟨others, rfl⟩
  | case3 char others ih => simpa [Delimited.cons] using ih
  | case4 char others _ _ ih => simpa [Delimited.cons] using ih

/-! ## The forms -/

/-- A text that starts with neither white space, a comment, a string, a `#` nor a word. -/
structure IsBare (first : Char) (others : List Char) : Prop where
  not_space : isSpace first = false
  not_quote : first ≠ '"'
  not_hash : first ≠ '#'
  not_comment : first = '/' → ∀ char ∈ others.head?, char ≠ '/' ∧ char ≠ '*'
  not_word : isIdentifierStart first = false

inductive Form (lexicon : Lexicon) (context : LineContext) : Char → List Char → Lexeme → Prop
  | whitespace {first : Char} {others : List Char} (hspace : isSpace first = true) :
      Form lexicon context first others (whitespace context first others)
  | lineComment (body : List Char) :
      Form lexicon context '/' ('/' :: body) (lineComment context body)
  | blockComment (body : List Char) :
      Form lexicon context '/' ('*' :: body) (blockComment context body)
  | stringLiteral (body : List Char) :
      Form lexicon context '"' body (stringLiteral context body)
  | hash (others : List Char) : Form lexicon context '#' others (hash context others)
  | word {first : Char} {others : List Char} (hstart : isIdentifierStart first = true) :
      Form lexicon context first others (word lexicon context first others)
  | number {first digit : Char} {others digits : List Char} (hbare : IsBare first others)
      (hnumber : number? (first :: others) = some (digit :: digits)) :
      Form lexicon context first others
        { text := digit :: digits, category := .numberLiteral, context := context.afterToken }
  | punctuation {first : Char} {others : List Char} (hbare : IsBare first others)
      (hnumber : ∀ digit digits, number? (first :: others) ≠ some (digit :: digits)) :
      Form lexicon context first others (punctuation context first)

theorem ne_of_isIdentifierStart {first char : Char} (hstart : isIdentifierStart first = true)
    (hchar : isIdentifierStart char = false) : first ≠ char := by
  rintro rfl
  rw [hstart] at hchar
  contradiction

theorem isSpace_of_isIdentifierStart {first : Char} (hstart : isIdentifierStart first = true) :
    isSpace first = false := by
  by_contra hspace
  simp only [isSpace, Bool.or_eq_true, decide_eq_true_eq, Bool.not_eq_false] at hspace
  rcases hspace with ((((rfl | rfl) | rfl) | rfl) | rfl) | rfl <;> contradiction

section Read

variable (lexicon : Lexicon) (context : LineContext)

theorem read_of_isSpace {first : Char} (hspace : isSpace first = true) (others : List Char) :
    read lexicon context first others = whitespace context first others := by
  simp [read, hspace]

@[simp] theorem read_lineComment (body : List Char) :
    read lexicon context '/' ('/' :: body) = lineComment context body := rfl

@[simp] theorem read_blockComment (body : List Char) :
    read lexicon context '/' ('*' :: body) = blockComment context body := rfl

@[simp] theorem read_stringLiteral (body : List Char) :
    read lexicon context '"' body = stringLiteral context body := by
  simp [read, isSpace]

@[simp] theorem read_hash (others : List Char) :
    read lexicon context '#' others = hash context others := by
  simp [read, isSpace]

theorem read_of_isIdentifierStart {first : Char} (hstart : isIdentifierStart first = true)
    (others : List Char) :
    read lexicon context first others = word lexicon context first others := by
  have hspace := isSpace_of_isIdentifierStart hstart
  have hslash := ne_of_isIdentifierStart hstart (show isIdentifierStart '/' = false from rfl)
  have hquote := ne_of_isIdentifierStart hstart (show isIdentifierStart '"' = false from rfl)
  have hhash := ne_of_isIdentifierStart hstart (show isIdentifierStart '#' = false from rfl)
  unfold read
  rw [if_neg (by simp [hspace])]
  split
  · contradiction
  · contradiction
  · contradiction
  · contradiction
  · rw [if_pos hstart]

theorem read_of_isBare {first : Char} {others : List Char} (hbare : IsBare first others) :
    read lexicon context first others = numberOrPunctuation context first others := by
  obtain ⟨hspace, hquote, hhash, hcomment, hword⟩ := hbare
  unfold read
  rw [if_neg (by simp [hspace])]
  split
  · next body => exact absurd rfl (hcomment rfl '/' (by simp)).1
  · next body => exact absurd rfl (hcomment rfl '*' (by simp)).2
  · contradiction
  · contradiction
  · rw [if_neg (by simp [hword])]

theorem form_read (first : Char) (others : List Char) :
    Form lexicon context first others (read lexicon context first others) := by
  by_cases hspace : isSpace first = true
  · rw [read_of_isSpace lexicon context hspace]
    exact .whitespace hspace
  by_cases hstart : isIdentifierStart first = true
  · rw [read_of_isIdentifierStart lexicon context hstart]
    exact .word hstart
  by_cases hquote : first = '"'
  · subst hquote
    rw [read_stringLiteral]
    exact .stringLiteral others
  by_cases hhash : first = '#'
  · subst hhash
    rw [read_hash]
    exact .hash others
  by_cases hcomment : first = '/' → ∀ char ∈ others.head?, char ≠ '/' ∧ char ≠ '*'
  · have hbare : IsBare first others := ⟨by simpa using hspace, hquote, hhash, hcomment,
      by simpa using hstart⟩
    rw [read_of_isBare lexicon context hbare]
    fun_cases numberOrPunctuation context first others with
    | case1 digit digits hnumber => exact .number hbare hnumber
    | case2 hnumber => exact .punctuation hbare hnumber
  · simp only [Classical.not_imp, not_forall, not_and_or, not_not] at hcomment
    obtain ⟨rfl, char, hchar, hopens⟩ := hcomment
    obtain ⟨body, rfl⟩ := List.head?_eq_some_iff.mp hchar
    rcases hopens with rfl | rfl
    · exact .lineComment body
    · exact .blockComment body

variable {lexicon context} in
theorem read_eq_of_form {first : Char} {others : List Char} {lexeme : Lexeme}
    (h : Form lexicon context first others lexeme) :
    read lexicon context first others = lexeme := by
  cases h with
  | whitespace hspace => exact read_of_isSpace lexicon context hspace others
  | lineComment body => exact read_lineComment lexicon context body
  | blockComment body => exact read_blockComment lexicon context body
  | stringLiteral => exact read_stringLiteral lexicon context others
  | hash => exact read_hash lexicon context others
  | word hstart => exact read_of_isIdentifierStart lexicon context hstart others
  | number hbare hnumber =>
      rw [read_of_isBare lexicon context hbare]
      simp only [numberOrPunctuation, hnumber]
  | punctuation hbare hnumber =>
      rw [read_of_isBare lexicon context hbare]
      fun_cases numberOrPunctuation context first others with
      | case1 digit digits hfound => exact absurd hfound (hnumber digit digits)
      | case2 => rfl

end Read

/-! ## What holds of every form -/

variable {lexicon : Lexicon} {context : LineContext} {first : Char} {others : List Char}
  {lexeme : Lexeme}

theorem text_isPrefix_of_form (h : Form lexicon context first others lexeme) :
    lexeme.text <+: first :: others := by
  cases h with
  | whitespace => simpa [whitespace] using List.takeWhile_prefix _
  | lineComment body => simpa [lineComment] using lineCommentBody_isPrefix body
  | blockComment body => simpa [blockComment] using blockCommentBody_isPrefix body
  | stringLiteral => simpa [stringLiteral] using stringBody_isPrefix others
  | hash =>
      cases context with
      | blank | code => simp [hash]
      | directiveName | directive => simpa [hash] using Number.suffix_isPrefix _ _
  | word => simpa [word] using List.takeWhile_prefix _
  | number _ hnumber => exact number?_isPrefix hnumber
  | punctuation => simp [punctuation]

theorem head?_text_of_form (h : Form lexicon context first others lexeme) :
    lexeme.text.head? = some first := by
  have htext := lexeme.text_ne_nil
  have hfront := text_isPrefix_of_form h
  cases hlexeme : lexeme.text with
  | nil => contradiction
  | cons char chars =>
      rw [hlexeme, List.cons_prefix_cons] at hfront
      rw [hfront.1, List.head?_cons]

theorem eq_word_of_form (h : Form lexicon context first others lexeme)
    (hstart : isIdentifierStart first = true) : lexeme = word lexicon context first others := by
  cases h with
  | whitespace hspace =>
      rw [isSpace_of_isIdentifierStart hstart] at hspace
      contradiction
  | lineComment | blockComment | stringLiteral | hash => contradiction
  | word => rfl
  | number hbare | punctuation hbare =>
      rw [hbare.not_word] at hstart
      contradiction

theorem eq_hash_of_form (h : Form lexicon context '#' others lexeme) :
    lexeme = hash context others := by
  cases h with
  | whitespace | word => contradiction
  | hash => rfl
  | number hbare | punctuation hbare => exact absurd rfl hbare.not_hash

theorem text_isPrefix_read (lexicon : Lexicon) (context : LineContext) (first : Char)
    (others : List Char) : (read lexicon context first others).text <+: first :: others :=
  text_isPrefix_of_form (form_read lexicon context first others)

end Lexeme

/-! ## Categories and line contexts -/

/-- The categories that are decided by a lexicon, and that of the words it does not know. -/
def Category.isWord : Category → Bool
  | .comment | .stringLiteral | .numberLiteral | .punctuation | .whitespace => false
  | _ => true

theorem Category.isGap_of_isWord {category : Category} (h : category.isWord = true) :
    category.isGap = false := by
  cases category <;> simp_all [isWord, isGap]

@[simp] theorem Lexicon.isWord_classify (lexicon : Lexicon) (word : String) (preprocessor : Bool) :
    (lexicon.classify word preprocessor).isWord = true := by
  unfold classify
  cases hfound : (consulted preprocessor).find? fun category => lexicon.hasWord category word with
  | none => rfl
  | some category =>
      have hmem := List.mem_of_find?_eq_some hfound
      have hconsulted : ∀ category ∈ consulted preprocessor, category.isWord = true := by
        cases preprocessor <;> decide
      exact hconsulted category hmem

@[simp] theorem Lexeme.isWord_wordCategory (lexicon : Lexicon) (context : LineContext)
    (word : String) :
    (wordCategory lexicon context word).isWord = true := by
  unfold wordCategory
  split
  · exact lexicon.isWord_classify word false
  · exact lexicon.isWord_classify word false
  · exact lexicon.isWord_classify word true
  · split
    · rfl
    · exact lexicon.isWord_classify word false

@[simp] theorem Lexeme.isGap_wordCategory (lexicon : Lexicon) (context : LineContext)
    (word : String) :
    (wordCategory lexicon context word).isGap = false :=
  Category.isGap_of_isWord (isWord_wordCategory lexicon context word)

def LineContext.next (context : LineContext) (text : List Char) (category : Category) :
    LineContext :=
  if category.isGap then context.afterGap text
  else if context = blank ∧ text = ['#'] then directiveName
  else context.afterToken

namespace Lexeme

theorem ne_wordCategory {category : Category} (h : category.isWord = false) (lexicon : Lexicon)
    (context : LineContext) (word : String) : wordCategory lexicon context word ≠ category := by
  rintro rfl
  rw [isWord_wordCategory] at h
  contradiction

theorem eq_stringLiteral_of_form {lexicon : Lexicon} {context : LineContext} {first : Char}
    {others : List Char} {lexeme : Lexeme} (h : Form lexicon context first others lexeme)
    (hcategory : lexeme.category = .stringLiteral) :
    first = '"' ∧ lexeme = stringLiteral context others := by
  cases h with
  | whitespace | lineComment | blockComment | number | punctuation => contradiction
  | stringLiteral => exact ⟨rfl, rfl⟩
  | hash => cases context <;> contradiction
  | word => exact absurd hcategory (ne_wordCategory rfl _ _ _)

/-- Gaps begin with white space or with a slash, other lexemes not with white space. -/
theorem isSpace_of_form {lexicon : Lexicon} {context : LineContext} {first : Char}
    {others : List Char} {lexeme : Lexeme} (h : Form lexicon context first others lexeme) :
    if lexeme.category.isGap then isSpace first = true ∨ first = '/'
    else isSpace first = false := by
  cases h with
  | whitespace hspace => exact .inl hspace
  | lineComment | blockComment => exact .inr rfl
  | stringLiteral => rfl
  | hash => cases context <;> rfl
  | word hstart => simp [word, isSpace_of_isIdentifierStart hstart]
  | number hbare | punctuation hbare => exact hbare.not_space

theorem context_of_form {lexicon : Lexicon} {context : LineContext} {first : Char}
    {others : List Char} {lexeme : Lexeme} (h : Form lexicon context first others lexeme) :
    lexeme.context = context.next lexeme.text lexeme.category := by
  cases h with
  | whitespace => rfl
  | lineComment body =>
      have hfeed := lineFeed_notMem_lineCommentBody body
      simp [lineComment, LineContext.next, Category.isGap, LineContext.afterGap, hfeed]
  | blockComment body => rfl
  | stringLiteral => simp [stringLiteral, LineContext.next, Category.isGap]
  | hash =>
      cases context <;>
        simp [hash, LineContext.next, Category.isGap, LineContext.afterToken]
  | word hstart =>
      have hne := ne_of_isIdentifierStart hstart (show isIdentifierStart '#' = false from rfl)
      simp [word, LineContext.next, hne]
  | @number _ digit _ _ hbare hnumber =>
      have hfirst := (List.cons_prefix_cons.mp (number?_isPrefix hnumber)).1
      have hne : digit ≠ '#' := hfirst ▸ hbare.not_hash
      simp [LineContext.next, Category.isGap, hne]
  | punctuation hbare =>
      simp [punctuation, LineContext.next, Category.isGap, hbare.not_hash]

theorem context_read (lexicon : Lexicon) (context : LineContext) (first : Char)
    (others : List Char) :
    (read lexicon context first others).context =
      context.next (read lexicon context first others).text
        (read lexicon context first others).category :=
  context_of_form (form_read lexicon context first others)

end Lexeme

end ShaderTokens
