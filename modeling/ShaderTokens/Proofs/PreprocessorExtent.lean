import ShaderTokens.Proofs.LineBoundary
import ShaderTokens.Proofs.PreprocessorLine

/-!
# How far preprocessor lines reach

Directives and their operators stand behind a `#` that opens their line.  White space and comments
end the line at their first line feed, and no other token holds one, except strings: a string of
several lines carries the preprocessor line along.
-/

namespace ShaderTokens

/-! ## Words and operators of directives -/

def Category.isOfDirective : Category → Bool
  | .preprocessorDirective | .preprocessorOperator => true
  | _ => false

@[simp] theorem Lexicon.isOfDirective_classify (lexicon : Lexicon) (word : String) :
    (lexicon.classify word false).isOfDirective = false := by
  unfold classify
  cases hfound : (consulted false).find? fun category => lexicon.hasWord category word with
  | none => rfl
  | some category =>
      have hmem := List.mem_of_find?_eq_some hfound
      have hconsulted : ∀ category ∈ consulted false, category.isOfDirective = false := by decide
      exact hconsulted category hmem

theorem Lexeme.isPreprocessor_of_form {lexicon : Lexicon} {context : LineContext} {first : Char}
    {others : List Char} {lexeme : Lexeme} (h : Form lexicon context first others lexeme)
    (hcategory : lexeme.category.isOfDirective = true) : context.isPreprocessor = true := by
  cases context with
  | directiveName | directive => rfl
  | blank | code =>
      cases h with
      | whitespace | lineComment | blockComment | stringLiteral | hash => contradiction
      | number | punctuation => contradiction
      | word =>
          simp only [word, wordCategory, lexicon.isOfDirective_classify] at hcategory
          contradiction

@[simp] theorem LineContext.isPreprocessor_ofLine (line : List Token) :
    (ofLine line).isPreprocessor = isPreprocessorLine line := by
  match line with
  | [] => rfl
  | [first] => by_cases hhash : first.text = "#" <;> simp [ofLine, isPreprocessor,
      isPreprocessorLine, hhash]
  | first :: second :: line => by_cases hhash : first.text = "#" <;> simp [ofLine, isPreprocessor,
      isPreprocessorLine, hhash]

/-! ## The token that opens a line -/

def tokensBetween (tokens : List Token) (place index : Nat) : List Token :=
  (tokens.take index).drop (place + 1)

/-- A `#` opens the preprocessor line that a later place is on: only gaps stand before it on its
line, and no gap behind it ends the line. -/
structure OpensLineOf (tokens : List Token) (index place : Nat) (opener : Token) : Prop where
  earlier : place < index
  found : tokens[place]? = some opener
  mark : opener.content = ("#", .punctuation)
  leads : lineBefore (tokens.take place) = []
  goesOn : ∀ token ∈ tokensBetween tokens place index, token.endsLine = false

theorem exists_of_lineBefore_eq_cons {earlier line : List Token} {opener : Token}
    (h : lineBefore earlier = opener :: line) :
    ∃ before between, earlier = before ++ opener :: between ∧ lineBefore before = [] ∧
      ∀ token ∈ between, token.endsLine = false := by
  induction earlier using List.reverseRecOn generalizing line with
  | nil => contradiction
  | append_singleton earlier token ih =>
      -- Unless the token is the first of its line, that line was there before it.
      have hbehind : ∀ {line}, lineBefore earlier = opener :: line → token.endsLine = false →
          ∃ before between, earlier ++ [token] = before ++ opener :: between ∧
            lineBefore before = [] ∧ ∀ token ∈ between, token.endsLine = false := by
        intro line hline hends
        obtain ⟨before, between, rfl, hbefore, hbetween⟩ := ih hline
        refine ⟨before, between ++ [token], by simp, hbefore, ?_⟩
        simpa [or_imp, forall_and, hends] using hbetween
      rw [lineBefore_append_singleton] at h
      by_cases hends : token.endsLine = true
      · rw [if_pos hends] at h
        contradiction
      · rw [if_neg hends] at h
        have hends : token.endsLine = false := by simpa using hends
        by_cases hgap : token.isGap = true
        · rw [if_pos hgap] at h
          exact hbehind h hends
        · rw [if_neg hgap] at h
          cases hline : lineBefore earlier with
          | nil =>
              rw [hline, List.nil_append, List.cons.injEq] at h
              obtain ⟨rfl, -⟩ := h
              exact ⟨earlier, [], rfl, hline, by simp⟩
          | cons first rest =>
              rw [hline, List.cons_append, List.cons.injEq] at h
              obtain ⟨rfl, -⟩ := h
              exact hbehind hline hends

private theorem exists_opensLineOf {stream : TokenStream} {index : Nat}
    (h : isPreprocessorLine (lineBefore (stream.allTokens.take index)) = true) :
    ∃ place opener, OpensLineOf stream.allTokens index place opener := by
  cases hline : lineBefore (stream.allTokens.take index) with
  | nil =>
      rw [hline] at h
      contradiction
  | cons opener line =>
      have hhash : opener.text = "#" := by simpa [hline, isPreprocessorLine] using h
      obtain ⟨before, between, htake, hbefore, hbetween⟩ := exists_of_lineBefore_eq_cons hline
      have hlength : before.length < index := by
        have hle := List.length_take_le index stream.allTokens
        rw [htake] at hle
        simp at hle
        omega
      have hfound : stream.allTokens[before.length]? = some opener := by
        rw [← List.getElem?_take_of_lt hlength, htake]
        simp
      have hfront : stream.allTokens.take before.length = before := by
        have hfront := congrArg (List.take before.length) htake
        simpa [List.take_take, Nat.min_eq_left hlength.le] using hfront
      refine ⟨before.length, opener, hlength, hfound, ?_, by rwa [hfront], ?_⟩
      · obtain ⟨first, others, lexeme, -, hform, hcontent⟩ := form_of_getElem?_allTokens hfound
        rw [hfront, hbefore] at hform
        have htext : lexeme.text = ['#'] := by
          have htext := congrArg (String.toList ∘ Prod.fst) hcontent
          simpa [Token.content, Lexeme.content, hhash] using htext.symm
        have hfirst : first = '#' := by
          simpa [htext, eq_comm] using Lexeme.head?_text_of_form hform
        subst hfirst
        rw [hcontent, Lexeme.eq_hash_of_form hform]
        rfl
      · rw [tokensBetween, htake]
        simpa using hbetween

/-! ## Line feeds behind the opening token -/

def charsOf (tokens : List Token) : List Char := tokens.flatMap fun token => token.text.toList

theorem charsOf_take_allTokens (stream : TokenStream) (count : Nat) :
    charsOf (stream.allTokens.take count) = textOf (stream.lexemes.take count) := by
  have hcontents := congrArg (List.map fun content : String × Category => content.1.toList)
    stream.content_allTokens
  have hchars := congrArg (fun chars => (chars.take count).flatten) hcontents
  simpa [charsOf, textOf, List.flatMap_def, Function.comp_def, Token.content, Lexeme.content]
    using hchars

theorem start_of_getElem?_allTokens {stream : TokenStream} {index : Nat} {token : Token}
    (h : stream.allTokens[index]? = some token) :
    token.start = .after .origin (charsOf (stream.allTokens.take index)) := by
  rw [getElem?_allTokens, Option.map_eq_some_iff] at h
  obtain ⟨lexeme, -, rfl⟩ := h
  rw [charsOf_take_allTokens]
  rfl

/-- Gaps apart, only strings hold line feeds. -/
theorem category_of_lineFeed_mem {stream : TokenStream} {token : Token}
    (htoken : token ∈ stream.allTokens) (hfeed : '\n' ∈ token.text.toList)
    (hends : token.endsLine = false) : token.category = .stringLiteral := by
  obtain ⟨earlier, lexeme, later, hlexemes, rfl⟩ := mem_allTokens htoken
  have hcut := stream.cut
  rw [hlexemes] at hcut
  obtain ⟨first, others, hform, -⟩ := hcut.form_of_append
  simp only [Scanner.scanned, String.toList_ofList] at hfeed ⊢
  have hgap : lexeme.category.isGap = false := by
    simpa [Token.endsLine, Token.isGap, Scanner.scanned, hfeed] using hends
  by_contra hstring
  exact Lexeme.lineFeed_notMem_of_form hform hgap hstring hfeed

theorem OpensLineOf.take_eq_append {tokens : List Token} {index place : Nat} {opener : Token}
    (h : OpensLineOf tokens index place opener) :
    tokens.take index = tokens.take place ++ opener :: tokensBetween tokens place index := by
  have hfound : (tokens.take index)[place]? = some opener := by
    rw [List.getElem?_take_of_lt h.earlier, h.found]
  obtain ⟨hlt, hopener⟩ := List.getElem?_eq_some_iff.mp hfound
  have hfront : (tokens.take index).take place = tokens.take place := by
    rw [List.take_take, Nat.min_eq_left h.earlier.le]
  rw [tokensBetween, ← hopener, List.getElem_cons_drop, ← hfront, List.take_append_drop]

theorem OpensLineOf.charsOf_take {tokens : List Token} {index place : Nat} {opener : Token}
    (h : OpensLineOf tokens index place opener) :
    charsOf (tokens.take index) =
      charsOf (tokens.take place) ++ '#' :: charsOf (tokensBetween tokens place index) := by
  have hmark : opener.text = "#" := congrArg Prod.fst h.mark
  rw [h.take_eq_append]
  simp [charsOf, hmark]

private theorem source_eq_charsOf (stream : TokenStream) (index : Nat) :
    stream.source =
      String.ofList (charsOf (stream.allTokens.take index) ++
        charsOf (stream.allTokens.drop index)) := by
  have hlength : stream.allTokens.length = stream.lexemes.length := by
    simpa using congrArg List.length stream.content_allTokens
  have hall := charsOf_take_allTokens stream stream.lexemes.length
  rw [List.take_length, ← hlength, List.take_length, stream.textOf_lexemes] at hall
  rw [← String.toList_inj, ← hall, String.toList_ofList, charsOf, charsOf, charsOf,
    ← List.flatMap_append, List.take_append_drop]

section Opener

variable {stream : TokenStream} {index place : Nat} {opener token : Token}
  (h : OpensLineOf stream.allTokens index place opener)
  (htoken : stream.allTokens[index]? = some token)

include h htoken

private theorem line_of_opensLineOf :
    token.line =
      opener.line + (charsOf (tokensBetween stream.allTokens place index)).count '\n' := by
  have hopener := congrArg Position.line (start_of_getElem?_allTokens h.found)
  have hline := congrArg Position.line (start_of_getElem?_allTokens htoken)
  rw [h.charsOf_take] at hline
  simp only [Token.start, Position.line_after, List.count_append] at hopener hline
  simp at hline
  omega

private theorem slice_of_opensLineOf :
    slice stream.source opener.startOffset token.startOffset =
      String.ofList ('#' :: charsOf (tokensBetween stream.allTokens place index)) := by
  have hopener := congrArg Position.offset (start_of_getElem?_allTokens h.found)
  have hoffset := congrArg Position.offset (start_of_getElem?_allTokens htoken)
  rw [h.charsOf_take] at hoffset
  simp only [Token.start, Position.offset_after_origin, List.length_append, Int.natCast_add]
    at hopener hoffset
  rw [source_eq_charsOf stream index, h.charsOf_take, List.append_assoc, hopener, hoffset]
  exact slice_append _ _ _

/-- No line feed comes between two tokens: they have one line, and the source from the first up to
the second is a part of that line. -/
def OnOneLine (source : String) (opener token : Token) : Prop :=
  opener.line = token.line ∧ '\n' ∉ (slice source opener.startOffset token.startOffset).toList

theorem onOneLine_iff :
    OnOneLine stream.source opener token ↔
      ∀ between ∈ tokensBetween stream.allTokens place index, '\n' ∉ between.text.toList := by
  have hline : opener.line = token.line ↔
      '\n' ∉ charsOf (tokensBetween stream.allTokens place index) := by
    rw [← List.count_eq_zero, line_of_opensLineOf h htoken]
    omega
  rw [OnOneLine, hline, slice_of_opensLineOf h htoken]
  simp [charsOf]

end Opener

/-! ## Directives and the line of their opening -/

/-- Each part of a directive stands behind the `#` that opened its line, and is on one line with it
unless a string in between holds a line feed. -/
theorem exists_opensLineOf_and_onOneLine_iff (stream : TokenStream) (index : Nat) (token : Token)
    (htoken : stream.allTokens[index]? = some token)
    (hcategory : token.category.isOfDirective = true) :
    (∃ place opener, OpensLineOf stream.allTokens index place opener) ∧
      ∀ place opener, OpensLineOf stream.allTokens index place opener →
        (OnOneLine stream.source opener token ↔
          ∀ between ∈ tokensBetween stream.allTokens place index,
            between.category = .stringLiteral → '\n' ∉ between.text.toList) := by
  constructor
  · apply exists_opensLineOf
    obtain ⟨first, others, lexeme, -, hform, hcontent⟩ := form_of_getElem?_allTokens htoken
    have hlexeme : token.category = lexeme.category := congrArg Prod.snd hcontent
    rw [← LineContext.isPreprocessor_ofLine]
    exact Lexeme.isPreprocessor_of_form hform (hlexeme ▸ hcategory)
  · intro place opener hopens
    rw [onOneLine_iff hopens htoken]
    constructor
    · intro hfeed between hbetween _
      exact hfeed between hbetween
    · intro hstrings between hbetween hfeed
      have hmem : between ∈ stream.allTokens :=
        List.mem_of_mem_take (List.mem_of_mem_drop hbetween)
      have hstring := category_of_lineFeed_mem hmem hfeed (hopens.goesOn between hbetween)
      exact hstrings between hbetween hstring hfeed

theorem exists_opensLineOf_and_onOneLine_iff_paste :
    let stream : TokenStream := ⟨⟨[]⟩, "\n/**/#\"x\"##", "input.hlsl"⟩
    let opener : Token := ⟨"#", .punctuation, 5, 6, 2, 5⟩
    let paste : Token := ⟨"##", .preprocessorOperator, 9, 11, 2, 9⟩
    stream.allTokens[4]? = some paste ∧ paste.category.isOfDirective = true ∧
      OpensLineOf stream.allTokens 4 2 opener ∧ OnOneLine stream.source opener paste := by
  intro stream opener paste
  have hpaste : stream.allTokens[4]? = some paste := by decide +kernel
  have hopens : OpensLineOf stream.allTokens 4 2 opener := by
    constructor <;> decide +kernel
  refine ⟨hpaste, rfl, hopens, ?_⟩
  rw [(exists_opensLineOf_and_onOneLine_iff stream 4 paste hpaste rfl).2 2 opener hopens]
  decide +kernel

/-- Behind a string of two lines a `#` still counts as an operator, though no `#` opens a
preprocessor line where it stands. -/
theorem operator_behind_string_of_two_lines :
    let stream : TokenStream := ⟨⟨[]⟩, "#define x \"\n\" #y", "input.hlsl"⟩
    let operator : Token := ⟨"#", .preprocessorOperator, 14, 15, 2, 3⟩
    operator ∈ stream.allTokens ∧
      ∀ opener ∈ stream.allTokens, opener.content = ("#", .punctuation) →
        opener.line ≠ operator.line := by
  decide +kernel

end ShaderTokens
