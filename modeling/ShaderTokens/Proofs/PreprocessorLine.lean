import Mathlib.Data.List.DropRight
import ShaderTokens.Proofs.Tiling

/-!
# Preprocessor lines

What the scanner remembers of a line can be read off the tokens before: the tokens since the last
gap with a line feed, gaps left out, tell whether a lexeme stands on a preprocessor line and whether
it names the directive.
-/

namespace ShaderTokens

/-! ## Looking back -/

namespace Token

def endsLine (token : Token) : Bool := token.isGap && token.text.toList.contains '\n'

end Token

/-- What stands on the current line behind some tokens: those since the last gap with a line feed,
gaps left out. -/
def lineBefore (earlier : List Token) : List Token :=
  (earlier.rtakeWhile fun token => !token.endsLine).filter fun token => !token.isGap

def isPreprocessorLine (line : List Token) : Bool :=
  line.head?.any fun token => token.text = "#"

theorem lineBefore_append_singleton (earlier : List Token) (token : Token) :
    lineBefore (earlier ++ [token]) =
      if token.endsLine then []
      else if token.isGap then lineBefore earlier
      else lineBefore earlier ++ [token] := by
  unfold lineBefore
  rw [List.rtakeWhile_concat]
  by_cases hends : token.endsLine = true
  · simp [hends]
  · by_cases hgap : token.isGap = true <;> simp [hends, hgap]

/-! ## The context of a line -/

namespace LineContext

def ofLine : List Token → LineContext
  | [] => blank
  | [first] => if first.text = "#" then directiveName else code
  | first :: _ :: _ => if first.text = "#" then directive else code

private theorem ofLine_append_singleton (line : List Token) (token : Token) :
    ofLine (line ++ [token]) =
      if ofLine line = blank ∧ token.text = "#" then directiveName
      else (ofLine line).afterToken := by
  match line with
  | [] => by_cases hhash : token.text = "#" <;> simp [ofLine, afterToken, hhash]
  | [first] => by_cases hhash : first.text = "#" <;> simp [ofLine, afterToken, hhash]
  | first :: second :: line =>
      by_cases hhash : first.text = "#" <;> simp [ofLine, afterToken, hhash]

def afterTokens (earlier : List Token) : LineContext :=
  earlier.foldl (fun context token => context.next token.text.toList token.category) blank

private theorem afterTokens_eq_ofLine (earlier : List Token) :
    afterTokens earlier = ofLine (lineBefore earlier) := by
  induction earlier using List.reverseRecOn with
  | nil => rfl
  | append_singleton earlier token ih =>
      have hstep : afterTokens (earlier ++ [token]) =
          (afterTokens earlier).next token.text.toList token.category := by
        simp [afterTokens]
      rw [hstep, ih, lineBefore_append_singleton]
      by_cases hgap : token.category.isGap = true
      · by_cases hfeed : '\n' ∈ token.text.toList
        · simp [next, Token.endsLine, Token.isGap, hgap, hfeed, afterGap, ofLine]
        · simp [next, Token.endsLine, Token.isGap, hgap, hfeed, afterGap]
      · have hhash : token.text.toList = ['#'] ↔ token.text = "#" := by
          rw [← String.toList_inj]
          rfl
        simp [next, Token.endsLine, Token.isGap, hgap, hhash, ofLine_append_singleton]

end LineContext

private theorem afterTokens_take_allTokens (stream : TokenStream) (index : Nat) :
    LineContext.afterTokens (stream.allTokens.take index) =
      LineContext.nextAll .blank (stream.lexemes.take index) := by
  let step := fun (context : LineContext) (content : String × Category) =>
    context.next content.1.toList content.2
  calc
    LineContext.afterTokens (stream.allTokens.take index)
      = ((stream.allTokens.map Token.content).take index).foldl step .blank := by
        rw [← List.map_take, List.foldl_map]
        rfl
    _ = ((stream.lexemes.map Lexeme.content).take index).foldl step .blank := by
        rw [stream.content_allTokens]
    _ = LineContext.nextAll .blank (stream.lexemes.take index) := by
        rw [← List.map_take, List.foldl_map]
        simp [LineContext.nextAll, step, Lexeme.content]

/-! ## Words and hashes -/

def isIdentifierShaped (text : String) : Bool :=
  match text.toList with
  | [] => false
  | first :: others => isIdentifierStart first && others.all isIdentifierPart

private theorem wordCategory_ofLine (lexicon : Lexicon) (line : List Token) (word : String) :
    Lexeme.wordCategory lexicon (.ofLine line) word =
      if line.map Token.text = ["#"] then lexicon.classify word true
      else if isPreprocessorLine line ∧ lexicon.hasWord .preprocessorOperator word then
        .preprocessorOperator
      else lexicon.classify word false := by
  match line with
  | [] => simp [LineContext.ofLine, Lexeme.wordCategory, isPreprocessorLine]
  | [first] =>
      by_cases hhash : first.text = "#" <;>
        simp [LineContext.ofLine, Lexeme.wordCategory, isPreprocessorLine, hhash]
  | first :: second :: line =>
      by_cases hhash : first.text = "#" <;>
        simp [LineContext.ofLine, Lexeme.wordCategory, isPreprocessorLine, hhash]

private theorem hash_ofLine (line : List Token) (others : List Char) :
    (Lexeme.hash (.ofLine line) others).content =
      if isPreprocessorLine line then
        (if others.head? = some '#' then "##" else "#", .preprocessorOperator)
      else ("#", .punctuation) := by
  have hsuffix : String.ofList ('#' :: Lexeme.Number.suffix (· = '#') others) =
      if others.head? = some '#' then "##" else "#" := by
    cases others with
    | nil => rfl
    | cons char others => by_cases hchar : char = '#' <;> simp [Lexeme.Number.suffix, hchar]
  cases line with
  | nil => rfl
  | cons first line =>
      cases line <;> by_cases hhash : first.text = "#" <;>
        simp [LineContext.ofLine, Lexeme.hash, Lexeme.content, isPreprocessorLine, hhash, hsuffix]

theorem form_of_getElem?_allTokens {stream : TokenStream} {index : Nat} {token : Token}
    (htoken : stream.allTokens[index]? = some token) :
    ∃ first others lexeme,
      stream.source.toList[token.startOffset.toNat + 1]? = others.head? ∧
      Lexeme.Form stream.lexicon (.ofLine (lineBefore (stream.allTokens.take index)))
        first others lexeme ∧
      token.content = lexeme.content := by
  rw [getElem?_allTokens, Option.map_eq_some_iff] at htoken
  obtain ⟨lexeme, hlexeme, rfl⟩ := htoken
  obtain ⟨first, others, hchars, hform⟩ := (cut_lexemes _ _ _).form_of_getElem? hlexeme
  have hsource : stream.source.toList = textOf (stream.lexemes.take index) ++ first :: others :=
    hchars
  rw [← LineContext.afterTokens_eq_ofLine, afterTokens_take_allTokens]
  refine ⟨first, others, lexeme, ?_, hform, rfl⟩
  rw [hsource]
  simp [Scanner.scanned, Position.origin, List.getElem?_append_right, List.head?_eq_getElem?]

/-- The category of a word, and the text and category of a `#`, depend on the tokens before it on
its line alone. -/
theorem category_of_lineBefore (stream : TokenStream) (index : Nat) (token : Token)
    (htoken : stream.allTokens[index]? = some token) :
    let line := lineBefore (stream.allTokens.take index)
    (isIdentifierShaped token.text = true →
      token.category =
        if line.map Token.text = ["#"] then stream.lexicon.classify token.text true
        else if isPreprocessorLine line ∧ stream.lexicon.hasWord .preprocessorOperator token.text
        then .preprocessorOperator
        else stream.lexicon.classify token.text false) ∧
    (token.text.toList.head? = some '#' →
      token.content =
        if isPreprocessorLine line then
          (if stream.source.toList[token.startOffset.toNat + 1]? = some '#' then "##" else "#",
            .preprocessorOperator)
        else ("#", .punctuation)) := by
  intro line
  obtain ⟨first, others, lexeme, hnext, hform, hcontent⟩ := form_of_getElem?_allTokens htoken
  have htext : token.text = String.ofList lexeme.text := congrArg Prod.fst hcontent
  have hcategory : token.category = lexeme.category := congrArg Prod.snd hcontent
  obtain ⟨chars, hchars⟩ := List.head?_eq_some_iff.mp (Lexeme.head?_text_of_form hform)
  constructor
  · intro hshape
    have hstart : isIdentifierStart first = true := by
      rw [htext, isIdentifierShaped, String.toList_ofList, hchars] at hshape
      exact (Bool.and_eq_true_iff.mp hshape).1
    have hlexeme := Lexeme.eq_word_of_form hform hstart
    rw [hcategory, htext, hlexeme]
    exact wordCategory_ofLine _ _ _
  · intro hhash
    have hfirst : first = '#' := by
      rw [htext, String.toList_ofList, hchars] at hhash
      exact Option.some.inj hhash
    subst hfirst
    rw [hcontent, Lexeme.eq_hash_of_form hform, hnext]
    exact hash_ofLine line others

theorem category_of_defined_behind_if :
    let words : WordTable :=
      [(.preprocessorDirective, ["if"]), (.preprocessorOperator, ["defined"])]
    let stream : TokenStream :=
      ⟨(Lexicon.build words []).toOption.getD ⟨[]⟩, "#if defined ##x", "input.hlsl"⟩
    let operator : Token := ⟨"defined", .preprocessorOperator, 4, 11, 1, 5⟩
    let paste : Token := ⟨"##", .preprocessorOperator, 12, 14, 1, 13⟩
    stream.allTokens[3]? = some operator ∧ stream.allTokens[5]? = some paste ∧
      operator.category = .preprocessorOperator ∧
      paste.content = ("##", .preprocessorOperator) := by
  intro words stream operator paste
  have hoperator : stream.allTokens[3]? = some operator := by decide +kernel
  have hpaste : stream.allTokens[5]? = some paste := by decide +kernel
  refine ⟨hoperator, hpaste, ?_, ?_⟩
  · rw [(category_of_lineBefore stream 3 operator hoperator).1 (by decide)]
    decide +kernel
  · rw [(category_of_lineBefore stream 5 paste hpaste).2 (by decide)]
    decide +kernel

end ShaderTokens
