import ShaderTokens.Proofs.Lexemes
import ShaderTokens.ScanMachine

/-!
# Scanning in rounds never fails

The machine that scans in rounds stands, before each round, either where the scanner stands or at
the opening of a comment or a string that it has just entered.  So it never goes wrong, every second
round at the latest yields a token, and the tokens are those of the scanner.
-/

namespace ShaderTokens

namespace ScanMachine

/-! ## Reading on -/

def behind (machine : ScanMachine) (text : List Char) : ScanMachine :=
  { machine with
    position := machine.position.after text
    remaining := machine.remaining.drop text.length }

@[simp] theorem mode_behind (machine : ScanMachine) (text : List Char) :
    (machine.behind text).mode = machine.mode := rfl

@[simp] theorem pastLineStart_behind (machine : ScanMachine) (text : List Char) :
    (machine.behind text).pastLineStart = machine.pastLineStart.behind text := rfl

@[simp] theorem pastDirective_behind (machine : ScanMachine) (text : List Char) :
    (machine.behind text).pastDirective = machine.pastDirective.behind text := rfl

section Advancing

variable {machine : ScanMachine} {char : Char} {text others rest : List Char}

@[simp] theorem behind_behind (machine : ScanMachine) (first second : List Char) :
    (machine.behind first).behind second = machine.behind (first ++ second) := by
  simp [behind, List.drop_drop]

theorem remaining_behind (h : machine.remaining = text ++ rest) :
    (machine.behind text).remaining = rest := by
  simp [behind, h]

theorem advance_eq (h : machine.remaining = char :: others) :
    machine.advance = .ok (machine.behind [char]) := by
  simp [advance, behind, h]

theorem advanceBy_length (h : machine.remaining = text ++ rest) :
    machine.advanceBy text.length = .ok (machine.behind text) := by
  induction text generalizing machine with
  | nil => rfl
  | cons char text ih =>
      have hnext : (machine.behind [char]).remaining = text ++ rest := remaining_behind h
      rw [List.length_cons, advanceBy, advance_eq h]
      change (machine.behind [char]).advanceBy text.length = _
      simp [ih hnext]

theorem advanceWhile_cons {goesOn : List Char → Bool} (h : machine.remaining = char :: others)
    (hgoes : goesOn (char :: others) = true) :
    machine.advanceWhile goesOn = (machine.behind [char]).advanceWhile goesOn := by
  rw [advanceWhile, h, if_pos hgoes]
  split
  next following hadvance =>
    rw [advance_eq h] at hadvance
    rw [Except.ok.inj hadvance]
  next fault hadvance =>
    rw [advance_eq h] at hadvance
    contradiction

/-- A loop that reads on reads the text that is cut off character by character under the same
condition. -/
theorem advanceWhile_eq {goesOn : List Char → Bool} {cut : List Char → List Char}
    (hend : goesOn [] = false) (hstops : ∀ chars, goesOn chars = false → cut chars = [])
    (hgoes : ∀ char others, goesOn (char :: others) = true →
      cut (char :: others) = char :: cut others) (machine : ScanMachine) :
    machine.advanceWhile goesOn = .ok (machine.behind (cut machine.remaining)) := by
  generalize hremaining : machine.remaining = chars
  induction chars generalizing machine with
  | nil =>
      rw [advanceWhile, hremaining, hend, if_neg (by simp), hstops [] hend]
      rfl
  | cons char others ih =>
      cases hchar : goesOn (char :: others) with
      | true =>
          have hnext : (machine.behind [char]).remaining = others := remaining_behind hremaining
          rw [advanceWhile_cons hremaining hchar, ih _ hnext]
          simp [hgoes _ _ hchar]
      | false =>
          rw [advanceWhile, hremaining, hchar, if_neg (by simp), hstops _ hchar]
          rfl

@[simp] theorem advanceWhile_head? (isMember : Char → Bool) (machine : ScanMachine) :
    machine.advanceWhile (·.head?.any isMember) =
      .ok (machine.behind (machine.remaining.takeWhile isMember)) := by
  refine advanceWhile_eq rfl ?_ ?_ machine
  · intro chars hchars
    cases chars with
    | nil => rfl
    | cons char others => simp_all
  · intro char others hchar
    simp_all

@[simp] private theorem advanceWhile_isInLineComment (machine : ScanMachine) :
    machine.advanceWhile isInLineComment =
      .ok (machine.behind (Lexeme.lineCommentBody machine.remaining)) := by
  refine advanceWhile_eq rfl ?_ ?_ machine
  · intro chars hchars
    unfold isInLineComment at hchars
    split at hchars <;> simp_all [Lexeme.lineCommentBody]
  · intro char others hchars
    unfold isInLineComment at hchars
    split at hchars <;> simp_all [Lexeme.lineCommentBody]

theorem advanceThroughComment_cons (h : machine.remaining = char :: others)
    (hinside : isInBlockComment (char :: others) = true) :
    machine.advanceThroughComment = (machine.behind [char]).advanceThroughComment := by
  rw [advanceThroughComment, advanceWhile_cons h hinside, advanceThroughComment]

@[simp] private theorem advanceThroughComment_eq (machine : ScanMachine) :
    machine.advanceThroughComment =
      .ok ((Lexeme.blockCommentBody machine.remaining).isClosed,
        machine.behind (Lexeme.blockCommentBody machine.remaining).text) := by
  generalize hremaining : machine.remaining = chars
  fun_induction Lexeme.blockCommentBody chars generalizing machine with
  | case1 =>
      rw [advanceThroughComment, advanceWhile, hremaining, if_neg (by simp [isInBlockComment])]
      simp only [bind, Except.bind, hremaining]
      rfl
  | case2 others =>
      have hahead : machine.remaining = ['*', '/'] ++ others := hremaining
      have hcloses : machine.advanceBy 2 = .ok (machine.behind ['*', '/']) :=
        advanceBy_length hahead
      rw [advanceThroughComment, advanceWhile, hremaining, if_neg (by simp [isInBlockComment])]
      simp [bind, Except.bind, pure, Except.pure, hremaining, hcloses]
  | case3 char others hcloses ih =>
      have hinside : isInBlockComment (char :: others) = true := by
        unfold isInBlockComment
        split <;> simp_all
      rw [advanceThroughComment_cons hremaining hinside, ih _ (remaining_behind hremaining),
        behind_behind]
      rfl

theorem advanceThroughQuote_cons (h : machine.remaining = char :: others) :
    machine.advanceThroughQuote =
      if char = '\\' && !others.isEmpty then
        (machine.behind (char :: others.take 1)).advanceThroughQuote
      else if char = '"' then .ok (true, machine.behind [char])
      else (machine.behind [char]).advanceThroughQuote := by
  have hnext : (machine.behind [char]).remaining = others := remaining_behind h
  rw [advanceThroughQuote, h]
  dsimp only
  split
  next fault hadvance =>
    rw [advance_eq h] at hadvance
    contradiction
  next following hadvance =>
    rw [advance_eq h] at hadvance
    obtain rfl := Except.ok.inj hadvance
    rw [hnext]
    split
    next hescape =>
      cases others with
      | nil => simp at hescape
      | cons escaped others =>
        split
        next fault hadvance =>
          rw [advance_eq hnext] at hadvance
          contradiction
        next machine' hadvance =>
          rw [advance_eq hnext] at hadvance
          obtain rfl := Except.ok.inj hadvance
          rw [behind_behind]
          rfl
    next => rfl

@[simp] private theorem advanceThroughQuote_eq (machine : ScanMachine) :
    machine.advanceThroughQuote =
      .ok ((Lexeme.stringBody machine.remaining).isClosed,
        machine.behind (Lexeme.stringBody machine.remaining).text) := by
  generalize hremaining : machine.remaining = chars
  fun_induction Lexeme.stringBody chars generalizing machine with
  | case1 =>
      rw [advanceThroughQuote, hremaining]
      rfl
  | case2 others =>
      rw [advanceThroughQuote_cons hremaining]
      rfl
  | case3 char others ih =>
      have hrest : (machine.behind ['\\', char]).remaining = others := remaining_behind hremaining
      rw [advanceThroughQuote_cons hremaining, if_pos (by simp)]
      change (machine.behind ['\\', char]).advanceThroughQuote = _
      rw [ih _ hrest, behind_behind]
      rfl
  | case4 char others hquote hescape ih =>
      -- A backslash at the very end of the source escapes nothing.
      have hlast : ¬ (char = '\\' && !others.isEmpty) = true := by
        cases others with
        | nil => simp
        | cons next others => simpa using hescape next others
      rw [advanceThroughQuote_cons hremaining, if_neg hlast, if_neg hquote,
        ih _ (remaining_behind hremaining), behind_behind]
      rfl

end Advancing

/-! ## Standing where the scanner stands -/

def ofScanner (scanner : Scanner) : ScanMachine :=
  { lexicon := scanner.lexicon
    position := scanner.position
    remaining := scanner.remaining
    mode := if scanner.context.isPreprocessor then .preprocessorLine else .plain
    outer := if scanner.context.isPreprocessor then [.plain] else []
    isLineStart := scanner.context = .blank
    awaitsDirective := scanner.context = .directiveName }

@[simp] theorem ofScanner_ofSource (lexicon : Lexicon) (source : String) :
    ofScanner (.ofSource lexicon source) = ofSource lexicon source := rfl

@[simp] theorem endLineIn_eq (scanner : Scanner) (text : List Char) :
    ((ofScanner scanner).behind text).endLineIn text =
      .ok ((ofScanner { scanner with context := scanner.context.afterGap text }).behind text) := by
  unfold endLineIn LineContext.afterGap
  split
  · cases hcontext : scanner.context <;>
      simp [endLine, goBack, ofScanner, behind, hcontext, LineContext.isPreprocessor]
  · rfl

@[simp] theorem pastDirective_pastLineStart (scanner : Scanner) :
    (ofScanner scanner).pastLineStart.pastDirective =
      ofScanner { scanner with context := scanner.context.afterToken } := by
  cases hcontext : scanner.context <;>
    simp [pastLineStart, pastDirective, ofScanner, hcontext, LineContext.afterToken,
      LineContext.isPreprocessor]

section Tokens

variable {start machine : ScanMachine}

theorem textSince_eq {text : List Char} (hfront : text <+: start.remaining)
    (hremaining : machine.remaining = start.remaining.drop text.length) :
    machine.textSince start = text := by
  obtain ⟨rest, hrest⟩ := hfront
  simp [textSince, hremaining, ← hrest]

theorem tokenSince_eq (lexeme : Lexeme) (hfront : lexeme.text <+: start.remaining)
    (hposition : machine.position = start.position.after lexeme.text)
    (hremaining : machine.remaining = start.remaining.drop lexeme.text.length) :
    machine.tokenSince start lexeme.category lexeme.fault =
      Scanner.scanned start.position lexeme := by
  simp [tokenSince, Scanner.scanned, textSince_eq hfront hremaining, hposition]

end Tokens

def yielded (scanner : Scanner) (lexeme : Lexeme) : ScannedToken × ScanMachine :=
  (Scanner.scanned scanner.position lexeme, ofScanner (scanner.skip lexeme))

section Rounds

variable {scanner : Scanner} {first : Char} {others body : List Char}

private theorem ok_eq_yielded {lexeme : Lexeme} {token : ScannedToken}
    (h : token = Scanner.scanned scanner.position lexeme) :
    (.ok (token, ofScanner (scanner.skip lexeme)) : Except MachineFault _) =
      .ok (yielded scanner lexeme) := by
  rw [h, yielded]

private theorem readWhitespace_eq (hremaining : scanner.remaining = first :: others)
    (hspace : Lexeme.isSpace first = true) :
    (ofScanner scanner).readWhitespace =
      .ok (yielded scanner (.whitespace scanner.context first others)) := by
  let lexeme := Lexeme.whitespace scanner.context first others
  have hcut : (ofScanner scanner).remaining.takeWhile Lexeme.isSpace = lexeme.text := by
    simp [ofScanner, hremaining, lexeme, Lexeme.whitespace, hspace]
  have hfront : lexeme.text <+: (ofScanner scanner).remaining :=
    hcut ▸ List.takeWhile_prefix _
  have htext : ((ofScanner scanner).behind lexeme.text).textSince (ofScanner scanner) =
      lexeme.text := textSince_eq hfront rfl
  have htoken : (ofScanner (scanner.skip lexeme)).tokenSince (ofScanner scanner) .whitespace =
      Scanner.scanned scanner.position lexeme := tokenSince_eq lexeme hfront rfl rfl
  rw [readWhitespace, advanceWhile_head?, hcut]
  simp only [bind, Except.bind, htext, endLineIn_eq]
  exact ok_eq_yielded htoken

private theorem readLineComment_eq (hremaining : scanner.remaining = '/' :: '/' :: body) :
    ((ofScanner scanner).enter .lineComment).readLineComment =
      .ok (yielded scanner (.lineComment scanner.context body)) := by
  let lexeme := Lexeme.lineComment scanner.context body
  let start := (ofScanner scanner).enter .lineComment
  have hcut : Lexeme.lineCommentBody start.remaining = lexeme.text := by
    simp [start, enter, ofScanner, hremaining, lexeme, Lexeme.lineComment, Lexeme.lineCommentBody]
  have hfront : lexeme.text <+: start.remaining := hcut ▸ Lexeme.lineCommentBody_isPrefix _
  have htoken : (ofScanner (scanner.skip lexeme)).tokenSince start .comment =
      Scanner.scanned scanner.position lexeme := tokenSince_eq lexeme hfront rfl rfl
  rw [readLineComment, advanceWhile_isInLineComment, hcut]
  exact ok_eq_yielded htoken

private theorem readBlockComment_eq (hremaining : scanner.remaining = '/' :: '*' :: body) :
    ((ofScanner scanner).enter .blockComment).readBlockComment =
      .ok (yielded scanner (.blockComment scanner.context body)) := by
  let lexeme := Lexeme.blockComment scanner.context body
  let start := (ofScanner scanner).enter .blockComment
  have hstart : start.remaining = ['/', '*'] ++ body := hremaining
  have hfront : lexeme.text <+: start.remaining := by
    rw [hstart]
    simpa [lexeme, Lexeme.blockComment] using Lexeme.blockCommentBody_isPrefix body
  have hopened : start.advanceBy 2 = .ok (start.behind ['/', '*']) := advanceBy_length hstart
  have hclosed : (start.behind ['/', '*']).advanceThroughComment =
      .ok ((Lexeme.blockCommentBody body).isClosed, start.behind lexeme.text) := by
    rw [advanceThroughComment_eq, remaining_behind hstart, behind_behind]
    rfl
  have hback : (start.behind lexeme.text).goBack = .ok ((ofScanner scanner).behind lexeme.text) :=
    rfl
  have htext : ((ofScanner scanner).behind lexeme.text).textSince start = lexeme.text :=
    textSince_eq hfront rfl
  have htoken : (ofScanner (scanner.skip lexeme)).tokenSince start .comment lexeme.fault =
      Scanner.scanned scanner.position lexeme := tokenSince_eq lexeme hfront rfl rfl
  rw [readBlockComment, hopened]
  simp only [bind, Except.bind, hclosed, hback]
  rw [htext, endLineIn_eq]
  exact ok_eq_yielded htoken

private theorem readString_eq (hremaining : scanner.remaining = '"' :: body) :
    ((ofScanner scanner).pastDirective.enter .string).readString =
      .ok (yielded scanner (.stringLiteral scanner.context body)) := by
  let lexeme := Lexeme.stringLiteral scanner.context body
  let start := (ofScanner scanner).pastDirective.enter .string
  have hstart : start.remaining = ['"'] ++ body := hremaining
  have hfront : lexeme.text <+: start.remaining := by
    rw [hstart]
    simpa [lexeme, Lexeme.stringLiteral] using Lexeme.stringBody_isPrefix body
  have hopened : start.pastLineStart.advance = .ok (start.pastLineStart.behind ['"']) :=
    advance_eq hstart
  have hclosed : (start.pastLineStart.behind ['"']).advanceThroughQuote =
      .ok ((Lexeme.stringBody body).isClosed,
        start.pastLineStart.behind lexeme.text) := by
    have hrest : (start.pastLineStart.behind ['"']).remaining = body := remaining_behind hstart
    rw [advanceThroughQuote_eq, hrest, behind_behind]
    rfl
  have hback : (start.pastLineStart.behind lexeme.text).goBack =
      .ok (ofScanner (scanner.skip lexeme)) := by
    change Except.ok ((ofScanner scanner).pastLineStart.pastDirective.behind lexeme.text) = _
    rw [pastDirective_pastLineStart]
    rfl
  have htoken : (ofScanner (scanner.skip lexeme)).tokenSince start .stringLiteral lexeme.fault =
      Scanner.scanned scanner.position lexeme := tokenSince_eq lexeme hfront rfl rfl
  rw [readString, hopened]
  simp only [bind, Except.bind, hclosed, hback]
  exact ok_eq_yielded htoken

theorem readBehindHash_of_isPreprocessor (hremaining : scanner.remaining = '#' :: others)
    (hcontext : scanner.context.isPreprocessor = true) :
    ((ofScanner scanner).behind ['#']).readBehindHash =
      .ok (.preprocessorOperator,
        (ofScanner { scanner with context := .directive }).behind
          ('#' :: Lexeme.Number.suffix (· = '#') others)) := by
  let machine := (ofScanner { scanner with context := .directive }).behind ['#']
  have hmachine : ((ofScanner scanner).behind ['#']).pastLineStart.pastDirective = machine := by
    cases hcontext : scanner.context <;>
      simp_all [machine, LineContext.isPreprocessor, LineContext.afterToken]
  have hplain : (ofScanner scanner).mode ≠ .plain := by simp [ofScanner, hcontext]
  have hrest : machine.remaining = others := remaining_behind hremaining
  have hmode : machine.mode = .preprocessorLine := rfl
  rw [readBehindHash, if_neg (by simp [hplain])]
  simp only [hmachine, hmode, hrest, if_true]
  cases others with
  | nil => rfl
  | cons char others =>
      by_cases hchar : char = '#'
      · rw [advance_eq hrest]
        simp [hchar, Lexeme.Number.suffix, Except.map, machine]
      · simp [hchar, Lexeme.Number.suffix, machine]

private theorem readBehindHash_eq (hremaining : scanner.remaining = '#' :: others) :
    ((ofScanner scanner).behind ['#']).readBehindHash =
      .ok ((Lexeme.hash scanner.context others).category,
        ofScanner (scanner.skip (.hash scanner.context others))) := by
  cases hcontext : scanner.context with
  | blank =>
      simp [readBehindHash, openDirective, enter, behind, ofScanner, Scanner.skip, Lexeme.hash,
        hcontext, LineContext.isPreprocessor]
  | code =>
      simp [readBehindHash, pastLineStart, pastDirective, behind, ofScanner, Scanner.skip,
        Lexeme.hash, hcontext, LineContext.isPreprocessor]
  | directiveName =>
      rw [readBehindHash_of_isPreprocessor hremaining (by rw [hcontext]; rfl)]
      rfl
  | directive =>
      rw [readBehindHash_of_isPreprocessor hremaining (by rw [hcontext]; rfl)]
      rfl

private theorem readHash_eq (hremaining : scanner.remaining = '#' :: others) :
    (ofScanner scanner).readHash = .ok (yielded scanner (.hash scanner.context others)) := by
  let lexeme := Lexeme.hash scanner.context others
  let start := ofScanner scanner
  have hstart : start.remaining = '#' :: others := hremaining
  have hfront : lexeme.text <+: start.remaining := by
    have hread := Lexeme.text_isPrefix_read scanner.lexicon scanner.context '#' others
    rwa [Lexeme.read_hash, ← hstart] at hread
  have hfault : lexeme.fault = none := by
    cases hcontext : scanner.context <;> simp [lexeme, Lexeme.hash, hcontext]
  have htoken : (ofScanner (scanner.skip lexeme)).tokenSince start lexeme.category lexeme.fault =
      Scanner.scanned scanner.position lexeme := tokenSince_eq lexeme hfront rfl rfl
  have hbehind : (start.behind ['#']).readBehindHash =
      .ok (lexeme.category, ofScanner (scanner.skip lexeme)) := readBehindHash_eq hremaining
  rw [hfault] at htoken
  change start.readHash = .ok (yielded scanner lexeme)
  rw [readHash, advance_eq hstart]
  simp only [bind, Except.bind, hbehind]
  exact ok_eq_yielded htoken

private theorem readWord_eq (hremaining : scanner.remaining = first :: others)
    (hfirst : isIdentifierStart first = true) :
    (ofScanner scanner).pastLineStart.readWord =
      .ok (yielded scanner (.word scanner.lexicon scanner.context first others)) := by
  let lexeme := Lexeme.word scanner.lexicon scanner.context first others
  let start := (ofScanner scanner).pastLineStart
  have hcut : start.remaining.takeWhile isIdentifierPart = lexeme.text := by
    simp [start, pastLineStart, ofScanner, hremaining, lexeme, Lexeme.word, isIdentifierPart,
      hfirst]
  have hfront : lexeme.text <+: start.remaining := hcut ▸ List.takeWhile_prefix _
  have htext : (start.behind lexeme.text).textSince start = lexeme.text := textSince_eq hfront rfl
  have hcategory : (start.behind lexeme.text).wordCategory (String.ofList lexeme.text) =
      lexeme.category := by
    cases hcontext : scanner.context <;>
      simp [start, wordCategory, pastLineStart, behind, ofScanner, lexeme, Lexeme.word,
        Lexeme.wordCategory, LineContext.isPreprocessor, hcontext]
  have htoken : (start.behind lexeme.text).tokenSince start lexeme.category =
      Scanner.scanned scanner.position lexeme := tokenSince_eq lexeme hfront rfl rfl
  have hpast : (start.behind lexeme.text).pastDirective = ofScanner (scanner.skip lexeme) := by
    rw [pastDirective_behind, pastDirective_pastLineStart]
    rfl
  change start.readWord = .ok (yielded scanner lexeme)
  rw [readWord, advanceWhile_head?, hcut]
  simp only [bind, Except.bind, htext, hcategory, htoken, hpast]
  rfl

private theorem readNumber_eq {digit : Char} {digits : List Char}
    (hnumber : Lexeme.number? scanner.remaining = some (digit :: digits)) :
    (ofScanner scanner).pastLineStart.pastDirective.readNumber =
      .ok (yielded scanner
        { text := digit :: digits
          category := .numberLiteral
          context := scanner.context.afterToken }) := by
  let lexeme : Lexeme :=
    { text := digit :: digits
      category := .numberLiteral
      context := scanner.context.afterToken }
  let start := ofScanner { scanner with context := scanner.context.afterToken }
  have hfront : lexeme.text <+: start.remaining := Lexeme.number?_isPrefix hnumber
  obtain ⟨rest, hrest⟩ := hfront
  have hadvance : start.advanceBy lexeme.text.length = .ok (start.behind lexeme.text) :=
    advanceBy_length hrest.symm
  have htoken : (start.behind lexeme.text).tokenSince start .numberLiteral =
      Scanner.scanned scanner.position lexeme := tokenSince_eq lexeme ⟨rest, hrest⟩ rfl rfl
  have hfound : Lexeme.number? start.remaining = some lexeme.text := hnumber
  rw [pastDirective_pastLineStart]
  change start.readNumber = .ok (yielded scanner lexeme)
  rw [readNumber, hfound]
  simp only [bind, Except.bind, hadvance]
  exact ok_eq_yielded htoken

private theorem readPunctuation_eq (hremaining : scanner.remaining = first :: others) :
    (ofScanner scanner).pastLineStart.pastDirective.readPunctuation =
      .ok (yielded scanner (.punctuation scanner.context first)) := by
  let lexeme := Lexeme.punctuation scanner.context first
  let start := ofScanner { scanner with context := scanner.context.afterToken }
  have hstart : start.remaining = first :: others := hremaining
  have htoken : (start.behind lexeme.text).tokenSince start .punctuation =
      Scanner.scanned scanner.position lexeme := tokenSince_eq lexeme ⟨others, hstart.symm⟩ rfl rfl
  have hadvance : start.advance = .ok (start.behind lexeme.text) := advance_eq hstart
  rw [pastDirective_pastLineStart]
  change start.readPunctuation = .ok (yielded scanner lexeme)
  rw [readPunctuation, hadvance]
  exact ok_eq_yielded htoken

/-! ## Rounds -/

inductive Enters (scanner : Scanner) : ScanMachine → Prop
  | lineComment (hopens : ['/', '/'] <+: scanner.remaining) :
      Enters scanner ((ofScanner scanner).enter .lineComment)
  | blockComment (hopens : ['/', '*'] <+: scanner.remaining) :
      Enters scanner ((ofScanner scanner).enter .blockComment)
  | string (hopens : ['"'] <+: scanner.remaining) :
      Enters scanner ((ofScanner scanner).pastDirective.enter .string)

private theorem round_ofScanner (scanner : Scanner) :
    (ofScanner scanner).round = (ofScanner scanner).readOutside := by
  cases hcontext : scanner.context <;>
    simp [round, ofScanner, hcontext, LineContext.isPreprocessor]

theorem readOutside_of_isBare (hremaining : scanner.remaining = first :: others)
    (hbare : Lexeme.IsBare first others) :
    (ofScanner scanner).readOutside =
      let machine := (ofScanner scanner).pastLineStart.pastDirective
      if Lexeme.Number.startsNumber (first :: others) then yielding machine.readNumber
      else yielding machine.readPunctuation := by
  have hahead : (ofScanner scanner).remaining = first :: others := hremaining
  have hnext : ∀ next, others[0]? = some next → first = '/' → next ≠ '/' ∧ next ≠ '*' := by
    intro next hnext hfirst
    exact hbare.not_comment hfirst next (by rwa [List.head?_eq_getElem?])
  have hline : ¬ (first = '/' ∧ others[0]? = some '/') := fun h => (hnext _ h.2 h.1).1 rfl
  have hblock : ¬ (first = '/' ∧ others[0]? = some '*') := fun h => (hnext _ h.2 h.1).2 rfl
  simp [readOutside, hahead, hbare.not_space, hline, hblock, hbare.not_quote, hbare.not_hash,
    hbare.not_word, Lexeme.Number.startsNumber, List.head?_eq_getElem?]

/-- A round outside comments and strings reads the lexeme that comes next, or enters it. -/
theorem round_of_form {lexeme : Lexeme} (hremaining : scanner.remaining = first :: others)
    (hform : Lexeme.Form scanner.lexicon scanner.context first others lexeme) :
    (ofScanner scanner).round = yielding (.ok (yielded scanner lexeme)) ∨
      ∃ entered, Enters scanner entered ∧ (ofScanner scanner).round = .ok (none, entered) := by
  have hahead : (ofScanner scanner).remaining = first :: others := hremaining
  rw [round_ofScanner]
  cases hform with
  | whitespace hspace =>
      left
      rw [← readWhitespace_eq hremaining hspace]
      simp [readOutside, hahead, hspace]
  | lineComment body =>
      right
      refine ⟨_, .lineComment ⟨body, hremaining.symm⟩, ?_⟩
      simp [readOutside, hahead, Lexeme.isSpace]
  | blockComment body =>
      right
      refine ⟨_, .blockComment ⟨body, hremaining.symm⟩, ?_⟩
      simp [readOutside, hahead, Lexeme.isSpace]
  | stringLiteral =>
      right
      refine ⟨_, .string ⟨others, hremaining.symm⟩, ?_⟩
      simp [readOutside, hahead, Lexeme.isSpace]
  | hash =>
      left
      rw [← readHash_eq hremaining]
      simp [readOutside, hahead, Lexeme.isSpace]
  | word hstart =>
      left
      have hspace := Lexeme.isSpace_of_isIdentifierStart hstart
      have hslash : first ≠ '/' := Lexeme.ne_of_isIdentifierStart hstart rfl
      have hquote : first ≠ '"' := Lexeme.ne_of_isIdentifierStart hstart rfl
      have hhash : first ≠ '#' := Lexeme.ne_of_isIdentifierStart hstart rfl
      rw [← readWord_eq hremaining hstart]
      simp [readOutside, hahead, hspace, hslash, hquote, hhash, hstart]
  | number hbare hnumber =>
      left
      have hstarts := Lexeme.isSome_number? (first :: others)
      rw [hnumber] at hstarts
      rw [← hremaining] at hnumber
      rw [readOutside_of_isBare hremaining hbare, ← readNumber_eq hnumber]
      exact if_pos hstarts.symm
  | punctuation hbare hnumber =>
      left
      have hstarts := Lexeme.startsNumber_eq_false hnumber
      rw [readOutside_of_isBare hremaining hbare, ← readPunctuation_eq hremaining]
      exact if_neg (by rw [hstarts]; simp)

theorem round_of_enters {entered : ScanMachine} (h : Enters scanner entered)
    (hremaining : scanner.remaining = first :: others) :
    entered.round =
      yielding (.ok (yielded scanner
        (Lexeme.read scanner.lexicon scanner.context first others))) := by
  cases h with
  | lineComment hopens =>
      obtain ⟨body, hbody⟩ := hopens
      obtain ⟨rfl, rfl⟩ := List.cons.inj (hbody.trans hremaining)
      exact congrArg yielding (readLineComment_eq hbody.symm)
  | blockComment hopens =>
      obtain ⟨body, hbody⟩ := hopens
      obtain ⟨rfl, rfl⟩ := List.cons.inj (hbody.trans hremaining)
      exact congrArg yielding (readBlockComment_eq hbody.symm)
  | string hopens =>
      obtain ⟨body, hbody⟩ := hopens
      obtain ⟨rfl, rfl⟩ := List.cons.inj (hbody.trans hremaining)
      rw [Lexeme.read_stringLiteral]
      exact congrArg yielding (readString_eq hbody.symm)

/-- A machine before a round: where a scanner stands, or just inside a comment or a string. -/
def Tracks (scanner : Scanner) (machine : ScanMachine) : Prop :=
  machine = ofScanner scanner ∨ Enters scanner machine

theorem Enters.remaining_eq {entered : ScanMachine} (h : Enters scanner entered) :
    entered.remaining = scanner.remaining := by
  cases h <;> rfl

theorem Tracks.remaining_eq {machine : ScanMachine} (h : Tracks scanner machine) :
    machine.remaining = scanner.remaining := by
  obtain rfl | hentered := h
  · rfl
  · exact hentered.remaining_eq

/-- One round takes a machine that tracks a scanner to one that tracks the same scanner or the
scanner one lexeme later. -/
theorem Tracks.round {machine : ScanMachine} (h : Tracks scanner machine)
    (hremaining : scanner.remaining = first :: others) :
    machine.round =
        yielding (.ok (yielded scanner
          (Lexeme.read scanner.lexicon scanner.context first others))) ∨
      ∃ entered, Enters scanner entered ∧ machine.round = .ok (none, entered) := by
  obtain rfl | hentered := h
  · exact round_of_form hremaining (Lexeme.form_read _ _ _ _)
  · exact .inl (round_of_enters hentered hremaining)

end Rounds

end ScanMachine

/-! ## What holds before every round -/

def ScanMode.opening : ScanMode → List Char
  | plain | preprocessorLine => []
  | lineComment => ['/', '/']
  | blockComment => ['/', '*']
  | string => ['"']

def ScanMode.IsDelimited (mode : ScanMode) : Prop :=
  mode = lineComment ∨ mode = blockComment ∨ mode = string

namespace ScanMachine

def IsOnPreprocessorLine (machine : ScanMachine) : Prop :=
  machine.mode = .preprocessorLine ∨ .preprocessorLine ∈ machine.outer

/-- The modes are nested as the source nests, the marks fit the modes, and a comment or a string is
ahead where the mode says so. -/
structure IsSound (machine : ScanMachine) : Prop where
  nested :
    (machine.mode = .plain ∧ machine.outer = []) ∨
    (machine.mode = .preprocessorLine ∧ machine.outer = [.plain]) ∨
    (machine.mode.IsDelimited ∧ machine.outer = [.plain]) ∨
    (machine.mode.IsDelimited ∧ machine.outer = [.preprocessorLine, .plain])
  lineStart : machine.IsOnPreprocessorLine → machine.isLineStart = false
  directive : machine.awaitsDirective = true → machine.IsOnPreprocessorLine
  opened : machine.mode.opening <+: machine.remaining

theorem isSound_ofScanner (scanner : Scanner) : (ofScanner scanner).IsSound := by
  cases hcontext : scanner.context <;> constructor <;>
    simp [ofScanner, IsOnPreprocessorLine, ScanMode.opening, hcontext, LineContext.isPreprocessor]

theorem IsSound.pastDirective {machine : ScanMachine} (h : machine.IsSound) :
    machine.pastDirective.IsSound :=
  ⟨h.nested, h.lineStart, fun hawaits => by simp [ScanMachine.pastDirective] at hawaits, h.opened⟩

theorem IsSound.enter {machine : ScanMachine} {mode : ScanMode} (h : machine.IsSound)
    (houtside : ¬ machine.mode.IsDelimited) (hmode : mode.IsDelimited)
    (hopens : mode.opening <+: machine.remaining) : (machine.enter mode).IsSound := by
  have honLine : (machine.enter mode).IsOnPreprocessorLine ↔ machine.IsOnPreprocessorLine := by
    obtain rfl | rfl | rfl := hmode <;>
      simp [IsOnPreprocessorLine, ScanMachine.enter, eq_comm]
  refine ⟨?_, fun hon => h.lineStart (honLine.mp hon), fun hawaits =>
    honLine.mpr (h.directive hawaits), hopens⟩
  obtain ⟨hplain, houter⟩ | ⟨hline, houter⟩ | ⟨hdelimited, -⟩ | ⟨hdelimited, -⟩ := h.nested
  · exact .inr (.inr (.inl ⟨hmode, by rw [ScanMachine.enter, hplain, houter]⟩))
  · exact .inr (.inr (.inr ⟨hmode, by rw [ScanMachine.enter, hline, houter]⟩))
  · exact absurd hdelimited houtside
  · exact absurd hdelimited houtside

theorem Enters.isSound {scanner : Scanner} {machine : ScanMachine} (h : Enters scanner machine) :
    machine.IsSound := by
  have hsound := isSound_ofScanner scanner
  have houtside : ¬ (ofScanner scanner).mode.IsDelimited := by
    cases hcontext : scanner.context <;>
      simp [ofScanner, ScanMode.IsDelimited, hcontext, LineContext.isPreprocessor]
  cases h with
  | lineComment hopens => exact hsound.enter houtside (.inl rfl) hopens
  | blockComment hopens => exact hsound.enter houtside (.inr (.inl rfl)) hopens
  | string hopens => exact hsound.pastDirective.enter houtside (.inr (.inr rfl)) hopens

theorem Tracks.isSound {scanner : Scanner} {machine : ScanMachine} (h : Tracks scanner machine) :
    machine.IsSound := by
  obtain rfl | hentered := h
  · exact isSound_ofScanner scanner
  · exact hentered.isSound

/-! ## Round after round -/

inductive Reaches (lexicon : Lexicon) (source : String) : ScanMachine → Prop
  | start : Reaches lexicon source (ofSource lexicon source)
  | round {machine following : ScanMachine} {token : Option ScannedToken}
      (h : Reaches lexicon source machine) (hmore : machine.remaining ≠ [])
      (hround : machine.round = .ok (token, following)) : Reaches lexicon source following

def Yields (machine : ScanMachine) : Prop :=
  ∃ token following, machine.round = .ok (some token, following) ∧ token.token.text ≠ ""

section Runs

variable {lexicon : Lexicon} {source : String} {scanner : Scanner} {machine : ScanMachine}

theorem Reaches.tracks (h : Reaches lexicon source machine) :
    ∃ scanner, Tracks scanner machine := by
  induction h with
  | start => exact ⟨.ofSource lexicon source, .inl (ofScanner_ofSource lexicon source).symm⟩
  | @round machine following token _ hmore hround ih =>
      obtain ⟨scanner, htracks⟩ := ih
      rw [htracks.remaining_eq] at hmore
      obtain ⟨first, others, hremaining⟩ := List.exists_cons_of_ne_nil hmore
      obtain hyields | ⟨entered, hentered, henters⟩ := htracks.round hremaining
      · rw [hyields] at hround
        obtain ⟨-, rfl⟩ := Prod.mk.inj (Except.ok.inj hround)
        exact ⟨_, .inl rfl⟩
      · rw [henters] at hround
        obtain ⟨-, rfl⟩ := Prod.mk.inj (Except.ok.inj hround)
        exact ⟨scanner, .inr hentered⟩

theorem yields_of_round {lexeme : Lexeme}
    (h : machine.round = yielding (.ok (yielded scanner lexeme))) : machine.Yields := by
  refine ⟨_, _, h, fun hempty => lexeme.text_ne_nil ?_⟩
  simpa [yielded, Scanner.scanned] using congrArg String.toList hempty

theorem Tracks.yields_or_enters (h : Tracks scanner machine) (hmore : machine.remaining ≠ []) :
    machine.Yields ∨
      ∃ entered, machine.round = .ok (none, entered) ∧ entered.remaining ≠ [] ∧ entered.Yields := by
  rw [h.remaining_eq] at hmore
  obtain ⟨first, others, hremaining⟩ := List.exists_cons_of_ne_nil hmore
  obtain hyields | ⟨entered, hentered, henters⟩ := h.round hremaining
  · exact .inl (yields_of_round hyields)
  · refine .inr ⟨entered, henters, ?_, yields_of_round (round_of_enters hentered hremaining)⟩
    rwa [hentered.remaining_eq]

theorem run_succ {token : Option ScannedToken} {following last : ScanMachine}
    {tokens : List ScannedToken} {count : Nat} (hmore : machine.remaining ≠ [])
    (hround : machine.round = .ok (token, following))
    (hrun : following.run count = .ok (tokens, last)) :
    machine.run (count + 1) = .ok (token.toList ++ tokens, last) := by
  rw [run, if_neg (by simpa using hmore), hround]
  simp only [bind, Except.bind, hrun]
  rfl

/-- Two rounds for each character are enough to come to the end. -/
theorem run_ofScanner {count : Nat} (hcount : 2 * scanner.remaining.length ≤ count) :
    ∃ last, (ofScanner scanner).run count = .ok (scanner.toList, last) ∧ last.remaining = [] := by
  fun_induction Scanner.toList scanner generalizing count with
  | case1 scanner hnone =>
      have hend : scanner.remaining = [] := by
        unfold Scanner.next? at hnone
        split at hnone
        · assumption
        · contradiction
      refine ⟨ofScanner scanner, ?_, hend⟩
      cases count <;> simp [run, ofScanner, hend]
  | case2 scanner token following hnext ih =>
      have hshorter := Scanner.length_remaining_lt hnext
      obtain ⟨count, rfl⟩ : ∃ fewer, count = fewer + 2 := ⟨count - 2, by omega⟩
      have hone : 2 * following.remaining.length ≤ count + 1 := by omega
      have htwo : 2 * following.remaining.length ≤ count := by omega
      unfold Scanner.next? at hnext
      split at hnext
      · contradiction
      · next first others hremaining =>
        obtain ⟨rfl, rfl⟩ := Prod.mk.inj (Option.some.inj hnext)
        have hmore : scanner.remaining ≠ [] := by simp [hremaining]
        obtain hyields | ⟨entered, hentered, henters⟩ :=
          Tracks.round (.inl (Eq.refl (ofScanner scanner))) hremaining
        · obtain ⟨last, hrun, hlast⟩ := ih hone
          exact ⟨last, run_succ hmore hyields hrun, hlast⟩
        · obtain ⟨last, hrun, hlast⟩ := ih htwo
          have hinside : entered.remaining ≠ [] := by rwa [hentered.remaining_eq]
          have hread := run_succ hinside (round_of_enters hentered hremaining) hrun
          exact ⟨last, run_succ hmore henters hread, hlast⟩

end Runs

/-- Scanning a source in rounds cannot go wrong and cannot stall. -/
structure ScansSafely (lexicon : Lexicon) (source : String) : Prop where
  sound : ∀ machine, Reaches lexicon source machine → machine.IsSound
  faultless : ∀ machine, Reaches lexicon source machine → machine.remaining ≠ [] →
    ∀ fault, machine.round ≠ .error fault
  advances : ∀ machine, Reaches lexicon source machine → machine.remaining ≠ [] →
    machine.Yields ∨
      ∃ entered, machine.round = .ok (none, entered) ∧ entered.remaining ≠ [] ∧ entered.Yields
  finishes : ∃ last,
    (ofSource lexicon source).run (2 * source.length) =
      .ok ((Scanner.ofSource lexicon source).toList, last) ∧
    last.remaining = []

theorem scansSafely (lexicon : Lexicon) (source : String) : ScansSafely lexicon source where
  sound machine hreaches := by
    obtain ⟨scanner, htracks⟩ := hreaches.tracks
    exact htracks.isSound
  faultless machine hreaches hmore fault := by
    obtain ⟨scanner, htracks⟩ := hreaches.tracks
    obtain ⟨token, following, hround, -⟩ | ⟨entered, hround, -⟩ := htracks.yields_or_enters hmore
    · simp [hround]
    · simp [hround]
  advances machine hreaches hmore := by
    obtain ⟨scanner, htracks⟩ := hreaches.tracks
    exact htracks.yields_or_enters hmore
  finishes := by
    have hcount : 2 * (Scanner.ofSource lexicon source).remaining.length ≤ 2 * source.length :=
      le_of_eq (congrArg (2 * ·) String.length_toList)
    simpa using run_ofScanner hcount

end ScanMachine

end ShaderTokens
