import Mathlib.Data.List.Forall2
import ShaderTokens.Proofs.Colouring
import ShaderTokens.Proofs.LineBoundary

/-!
# Line ends with carriage returns

A source may end its lines with a line feed alone or with a carriage return before it.  Its lexemes
are cut at the same places, and neither the columns, the colours nor the reports show the carriage
returns.
-/

namespace ShaderTokens

/-! ## Carriage returns in front of line feeds -/

def withReturns (chars : List Char) : List Char :=
  chars.flatMap fun char => if char = '\n' then ['\r', '\n'] else [char]

section Text

variable {char : Char} {chars : List Char}

@[simp] theorem withReturns_nil : withReturns [] = [] := rfl

@[simp] theorem withReturns_lineFeed (chars : List Char) :
    withReturns ('\n' :: chars) = '\r' :: '\n' :: withReturns chars := rfl

@[simp] theorem withReturns_cons (h : char ≠ '\n') (chars : List Char) :
    withReturns (char :: chars) = char :: withReturns chars := by
  simp [withReturns, h]

@[simp] theorem withReturns_append (first second : List Char) :
    withReturns (first ++ second) = withReturns first ++ withReturns second :=
  List.flatMap_append

theorem withReturns_ne_nil (h : chars ≠ []) : withReturns chars ≠ [] := by
  obtain ⟨char, chars, rfl⟩ := List.exists_cons_of_ne_nil h
  by_cases hchar : char = '\n' <;> simp [hchar]

@[simp] theorem lineFeed_mem_withReturns_iff : '\n' ∈ withReturns chars ↔ '\n' ∈ chars := by
  induction chars with
  | nil => simp
  | cons char chars ih => by_cases hchar : char = '\n' <;> simp [hchar, ih]

theorem withReturns_of_notMem (h : '\n' ∉ chars) : withReturns chars = chars := by
  induction chars with
  | nil => rfl
  | cons char chars ih =>
      obtain ⟨hchar, hchars⟩ := not_or.mp (mt List.mem_cons.mpr h)
      simp [Ne.symm hchar, ih hchars]

private theorem exists_cons_of_withReturns_eq {first : Char} {others : List Char}
    (hfirst : first ≠ '\r') (h : withReturns chars = first :: others) :
    ∃ rest, chars = first :: rest ∧ withReturns rest = others := by
  cases chars with
  | nil => contradiction
  | cons char chars =>
      by_cases hchar : char = '\n'
      · subst hchar
        rw [withReturns_lineFeed, List.cons.injEq] at h
        exact absurd h.1.symm hfirst
      · rw [withReturns_cons hchar, List.cons.injEq] at h
        obtain ⟨rfl, rfl⟩ := h
        exact ⟨chars, rfl, rfl⟩

private theorem takeWhile_withReturns {isMember : Char → Bool} (hreturn : isMember '\r' = true)
    (hfeed : isMember '\n' = true) (chars : List Char) :
    (withReturns chars).takeWhile isMember = withReturns (chars.takeWhile isMember) := by
  induction chars with
  | nil => rfl
  | cons char chars ih =>
      by_cases hchar : char = '\n'
      · subst hchar
        simp [hreturn, hfeed, ih]
      · cases hmember : isMember char <;> simp [hchar, hmember, ih]

private theorem alike_withReturns (chars : List Char) : Alike chars (withReturns chars) := by
  induction chars with
  | nil => exact .nil
  | cons char chars ih =>
      by_cases hchar : char = '\n'
      · subst hchar
        refine ⟨[], _, _, rfl, rfl, ?_, ?_, ?_⟩ <;> simp [Lexeme.isSpace]
      · rw [withReturns_cons hchar]
        exact ih.append [char]

end Text

/-! ## Lexemes -/

namespace Lexeme

private theorem lineCommentBody_withReturns {body : List Char} (h : '\r' ∉ body) :
    lineCommentBody (withReturns body) = withReturns (lineCommentBody body) := by
  fun_induction lineCommentBody body with
  | case1 => rfl
  | case2 others => rfl
  | case3 others => simp at h
  | case4 char others hfeed _ ih =>
      obtain ⟨hreturn, hothers⟩ := not_or.mp (mt List.mem_cons.mpr h)
      rw [withReturns_cons hfeed, withReturns_cons hfeed, lineCommentBody, ih hothers]
      · exact hfeed
      · intro tail heq
        exact absurd heq.symm hreturn

def Delimited.withReturns (delimited : Delimited) : Delimited :=
  { delimited with text := ShaderTokens.withReturns delimited.text }

@[simp] theorem Delimited.withReturns_cons {char : Char} (h : char ≠ '\n') (delimited : Delimited) :
    (delimited.cons char).withReturns = delimited.withReturns.cons char := by
  simp [Delimited.withReturns, Delimited.cons, h]

@[simp] theorem Delimited.withReturns_lineFeed (delimited : Delimited) :
    (delimited.cons '\n').withReturns = (delimited.withReturns.cons '\n').cons '\r' := rfl

private theorem blockCommentBody_withReturns (body : List Char) :
    blockCommentBody (withReturns body) = (blockCommentBody body).withReturns := by
  fun_induction blockCommentBody body with
  | case1 => rfl
  | case2 others => rfl
  | case3 char others hcloses ih =>
      by_cases hchar : char = '\n'
      · subst hchar
        simp [blockCommentBody, ih]
      · rw [withReturns_cons hchar, blockCommentBody, ih, Delimited.withReturns_cons hchar]
        intro tail hstar hslash
        obtain ⟨rest, rfl, -⟩ := exists_cons_of_withReturns_eq (by decide) hslash
        exact hcloses rest hstar rfl

private theorem stringBody_withReturns (body : List Char) :
    stringBody (withReturns body) = (stringBody body).withReturns := by
  fun_induction stringBody body with
  | case1 => rfl
  | case2 others => rfl
  | case3 char others ih =>
      by_cases hchar : char = '\n'
      · -- the backslash escapes the return, and the line feed is read as any other character
        subst hchar
        simp [stringBody, ih]
      · simp [stringBody, ih, hchar]
  | case4 char others hquote hescape ih =>
      by_cases hchar : char = '\n'
      · subst hchar
        simp [stringBody, ih]
      · rw [withReturns_cons hchar, stringBody, ih, Delimited.withReturns_cons hchar]
        · exact hquote
        · rintro next tail rfl hnext
          obtain ⟨next, rest, rfl⟩ : ∃ next rest, others = next :: rest := by
            refine List.exists_cons_of_ne_nil ?_
            rintro rfl
            contradiction
          exact hescape next rest rfl rfl

def withReturns (lexeme : Lexeme) : Lexeme :=
  { lexeme with
    text := ShaderTokens.withReturns lexeme.text
    text_ne_nil := withReturns_ne_nil lexeme.text_ne_nil }

@[simp] theorem afterGap_withReturns (context : LineContext) (text : List Char) :
    context.afterGap (ShaderTokens.withReturns text) = context.afterGap text := by
  simp [LineContext.afterGap]

private theorem withReturns_of_lineFeed_notMem {lexeme : Lexeme} (h : '\n' ∉ lexeme.text) :
    lexeme.withReturns = lexeme := by
  cases lexeme
  simp only [withReturns, Lexeme.mk.injEq, and_self, and_true]
  exact withReturns_of_notMem h

private theorem withReturns_whitespace (context : LineContext) {first start : Char}
    {others rest : List Char} (hspace : isSpace first = true) (hstart : isSpace start = true)
    (h : ShaderTokens.withReturns (first :: others) = start :: rest) :
    whitespace context start rest = (whitespace context first others).withReturns := by
  have htext : start :: rest.takeWhile isSpace =
      ShaderTokens.withReturns (first :: others.takeWhile isSpace) := by
    have htake := takeWhile_withReturns (show isSpace '\r' = true from rfl)
      (show isSpace '\n' = true from rfl) (first :: others)
    rwa [h, List.takeWhile_cons_of_pos hstart, List.takeWhile_cons_of_pos hspace] at htake
  simp only [whitespace, withReturns, htext, afterGap_withReturns]

private theorem withReturns_lineComment (context : LineContext) {body : List Char}
    (h : '\r' ∉ body) :
    lineComment context (ShaderTokens.withReturns body) =
      (lineComment context body).withReturns := by
  simp [lineComment, withReturns, lineCommentBody_withReturns h]

private theorem withReturns_blockComment (context : LineContext) (body : List Char) :
    blockComment context (ShaderTokens.withReturns body) =
      (blockComment context body).withReturns := by
  have htext : '/' :: '*' :: ShaderTokens.withReturns (blockCommentBody body).text =
      ShaderTokens.withReturns ('/' :: '*' :: (blockCommentBody body).text) := by
    simp
  simp only [blockComment, withReturns, blockCommentBody_withReturns, Delimited.withReturns, htext,
    afterGap_withReturns]

private theorem withReturns_stringLiteral (context : LineContext) (body : List Char) :
    stringLiteral context (ShaderTokens.withReturns body) =
      (stringLiteral context body).withReturns := by
  simp [stringLiteral, withReturns, stringBody_withReturns, Delimited.withReturns]

/-- A lexeme of one line does not see the returns behind it. -/
theorem read_withReturns_of_lineFeed_notMem {lexicon : Lexicon} {context : LineContext}
    {first : Char} {others : List Char} {lexeme : Lexeme}
    (hform : Form lexicon context first others lexeme) (hgap : lexeme.category.isGap = false)
    (hfeed : '\n' ∉ lexeme.text) :
    read lexicon context first (ShaderTokens.withReturns others) = lexeme := by
  obtain ⟨tail, htail⟩ := List.head?_eq_some_iff.mp (head?_text_of_form hform)
  obtain ⟨after, hafter⟩ := text_isPrefix_of_form hform
  rw [htail, List.cons_append, List.cons.injEq] at hafter
  obtain ⟨-, rfl⟩ := hafter
  have hline : '\n' ∉ tail := by
    intro hmem
    exact hfeed (htail ▸ List.mem_cons_of_mem _ hmem)
  rw [withReturns_append, withReturns_of_notMem hline]
  exact read_eq_of_alike hform hgap htail (alike_withReturns after)

private theorem read_withReturns (lexicon : Lexicon) (context : LineContext) {first start : Char}
    {others rest : List Char} (hreturn : '\r' ∉ first :: others)
    (h : ShaderTokens.withReturns (first :: others) = start :: rest) :
    read lexicon context start rest = (read lexicon context first others).withReturns := by
  have hform := form_read lexicon context first others
  generalize read lexicon context first others = lexeme at hform ⊢
  -- Only a run of blanks can begin with a line feed and so get another first character.
  by_cases hspace : isSpace first = true
  · have hstart : isSpace start = true := by
      by_cases hfirst : first = '\n'
      · subst hfirst
        rw [← (List.cons.inj h).1]
        rfl
      · rw [withReturns_cons hfirst, List.cons.injEq] at h
        rwa [← h.1]
    rw [read_of_isSpace lexicon context hstart, ← read_eq_of_form hform,
      read_of_isSpace lexicon context hspace]
    exact withReturns_whitespace context hspace hstart h
  · have hfirst : first ≠ '\n' := by
      rintro rfl
      exact hspace rfl
    rw [withReturns_cons hfirst, List.cons.injEq] at h
    obtain ⟨rfl, rfl⟩ := h
    by_cases hgap : lexeme.category.isGap = true
    · cases hform with
      | whitespace hwhite => exact absurd hwhite hspace
      | lineComment body =>
          rw [withReturns_cons (by decide), read_lineComment]
          exact withReturns_lineComment context (by simp_all)
      | blockComment body =>
          rw [withReturns_cons (by decide), read_blockComment]
          exact withReturns_blockComment context body
      | word => simp [word] at hgap
      | hash => cases context <;> contradiction
      | stringLiteral | number | punctuation => contradiction
    · rw [Bool.not_eq_true] at hgap
      by_cases hstring : lexeme.category = .stringLiteral
      · obtain ⟨rfl, rfl⟩ := eq_stringLiteral_of_form hform hstring
        rw [read_stringLiteral]
        exact withReturns_stringLiteral context others
      · have hfeed := lineFeed_notMem_of_form hform hgap hstring
        rw [withReturns_of_lineFeed_notMem hfeed]
        exact read_withReturns_of_lineFeed_notMem hform hgap hfeed

end Lexeme

theorem Cut.withReturns {lexicon : Lexicon} {context : LineContext} {chars : List Char}
    {cut : List Lexeme} (h : Cut lexicon context chars cut) (hreturn : '\r' ∉ chars) :
    Cut lexicon context (ShaderTokens.withReturns chars) (cut.map Lexeme.withReturns) := by
  induction h with
  | done context => exact .done context
  | @next context first others rest lexeme cut hread htext hrest ih =>
      subst hread
      obtain ⟨start, following, hstart⟩ :=
        List.exists_cons_of_ne_nil (withReturns_ne_nil (List.cons_ne_nil first others))
      have hreturned := Lexeme.read_withReturns lexicon context hreturn hstart
      have hrestReturn : '\r' ∉ rest := by
        rw [htext, List.mem_append, not_or] at hreturn
        exact hreturn.2
      rw [hstart, List.map_cons]
      refine .next hreturned ?_ (ih hrestReturn)
      rw [← hstart, htext, withReturns_append]
      rfl

/-! ## Tokens and reports -/

namespace Position

/-- Positions with one line and column, whatever their offsets. -/
def SamePlace (position other : Position) : Prop :=
  position.line = other.line ∧ position.column = other.column

theorem SamePlace.after_withReturns {position other : Position} (h : position.SamePlace other)
    (text : List Char) : (position.after text).SamePlace (other.after (withReturns text)) := by
  induction text generalizing position other with
  | nil => exact h
  | cons char text ih =>
      obtain ⟨hline, hcolumn⟩ := h
      by_cases hchar : char = '\n'
      · subst hchar
        refine ih ⟨?_, ?_⟩ <;> simp [advance, hline]
      · rw [withReturns_cons hchar]
        refine ih ⟨?_, ?_⟩ <;> simp [advance, hchar, hline, hcolumn]

end Position

structure Token.Returned (token returned : Token) : Prop where
  text : returned.text.toList = withReturns token.text.toList
  category : returned.category = token.category
  place : token.start.SamePlace returned.start

structure ScannedToken.Returned (scanned returned : ScannedToken) : Prop where
  token : scanned.token.Returned returned.token
  stop : scanned.stop.SamePlace returned.stop
  fault : returned.fault = scanned.fault

private theorem placed_withReturns {position other : Position} (h : position.SamePlace other)
    (lexemes : List Lexeme) :
    List.Forall₂ ScannedToken.Returned (placed position lexemes)
      (placed other (lexemes.map Lexeme.withReturns)) := by
  induction lexemes generalizing position other with
  | nil => exact .nil
  | cons lexeme lexemes ih =>
      have hstop := h.after_withReturns lexeme.text
      refine .cons ⟨⟨?_, rfl, h⟩, hstop, rfl⟩ (ih hstop)
      simp [Scanner.scanned, Lexeme.withReturns]

/-! ## Colours -/

section Colours

open Text Editor

theorem dropTrailing_cons {last char : Char} (h : char ≠ last) (text : List Char) :
    dropTrailing last (char :: text) = char :: dropTrailing last text := by
  cases htext : text.reverse.dropWhile (· = last) <;>
    simp [dropTrailing, List.dropWhile_append, htext, h]

theorem map_ontoFirstLine {change : List Char → List Char} {char : Char}
    (hnil : change [char] = [char]) (h : ∀ line, change (char :: line) = char :: change line)
    (lines : List (List Char)) :
    (ontoFirstLine [char] lines).map change = ontoFirstLine [char] (lines.map change) := by
  cases lines <;> simp [ontoFirstLine, hnil, h]

private theorem map_dropTrailing_between_withReturns {text : List Char} (h : '\r' ∉ text) :
    (between '\n' (withReturns text)).map (dropTrailing '\r') =
      (between '\n' text).map (dropTrailing '\r') := by
  induction text with
  | nil => rfl
  | cons char text ih =>
      obtain ⟨hreturn, htext⟩ := not_or.mp (mt List.mem_cons.mpr h)
      by_cases hchar : char = '\n'
      · subst hchar
        have hline : dropTrailing '\r' ['\r'] = dropTrailing '\r' [] := rfl
        simp [between, ontoFirstLine, ih htext, hline]
      · have hcons := dropTrailing_cons (Ne.symm hreturn)
        rw [withReturns_cons hchar, between, between, if_neg hchar, if_neg hchar,
          map_ontoFirstLine (hcons []) hcons, map_ontoFirstLine (hcons []) hcons, ih htext]

private theorem stretchesFrom_congr (semanticType : SemanticType) (modifiers : Nat)
    (line character : Int) {pieces others : List (List Char)}
    (h : pieces.map (dropTrailing '\r') = others.map (dropTrailing '\r')) :
    stretchesFrom semanticType modifiers line character pieces =
      stretchesFrom semanticType modifiers line character others := by
  induction pieces generalizing line character others with
  | nil =>
      obtain rfl := List.map_eq_nil_iff.mp h.symm
      rfl
  | cons piece pieces ih =>
      obtain ⟨other, others, rfl, hpiece, hothers⟩ := List.map_eq_cons_iff.mp h.symm
      simp only [stretchesFrom, hpiece, ih (line + 1) 0 hothers.symm]

theorem Token.Returned.stretches_eq {token returned : Token} (h : token.Returned returned)
    (hreturn : '\r' ∉ token.text.toList) : stretches returned = stretches token := by
  obtain ⟨hline, hcolumn⟩ := h.place
  simp only [Token.start] at hline hcolumn
  have hpieces := map_dropTrailing_between_withReturns hreturn
  rw [← h.text] at hpieces
  simp only [stretches, h.category, hline, hcolumn]
  cases SemanticType.ofCategory? token.category with
  | none => rfl
  | some semanticType => exact stretchesFrom_congr _ _ _ _ hpieces

private theorem encodeTokens_eq_of_returned {tokens returned : List Token}
    (h : List.Forall₂ Token.Returned tokens returned)
    (hreturn : ∀ token ∈ tokens, '\r' ∉ token.text.toList) :
    encodeTokens returned = encodeTokens tokens := by
  have hstretches : returned.flatMap stretches = tokens.flatMap stretches := by
    induction h with
    | nil => rfl
    | cons htoken _ ih =>
        obtain ⟨hfirst, hothers⟩ := List.forall_mem_cons.mp hreturn
        simp only [List.flatMap_cons, htoken.stretches_eq hfirst, ih hothers]
  rw [encodeTokens, encodeTokens, hstretches]

end Colours

/-! ## Reports -/

section Reports

open Text

theorem lines_cons {char : Char} (h : char ≠ '\r') (others : List Char) :
    lines (char :: others) =
      if isLineTerminator char then [char] :: lines others
      else ontoFirstLine [char] (lines others) := by
  rw [lines]
  intro rest heq
  exact absurd heq h

theorem withoutTerminator_cons {char : Char} (hfeed : char ≠ '\n') (hreturn : char ≠ '\r')
    (line : List Char) : withoutTerminator (char :: line) = char :: withoutTerminator line := by
  rw [withoutTerminator, dropTrailing_cons hfeed, dropTrailing_cons hreturn, withoutTerminator]

private theorem map_withoutTerminator_lines_withReturns {text : List Char} (h : '\r' ∉ text) :
    (lines (withReturns text)).map withoutTerminator = (lines text).map withoutTerminator := by
  induction text with
  | nil => rfl
  | cons char text ih =>
      obtain ⟨hreturn, htext⟩ := not_or.mp (mt List.mem_cons.mpr h)
      have hreturn := Ne.symm hreturn
      by_cases hchar : char = '\n'
      · subst hchar
        have hpair : withoutTerminator ['\r', '\n'] = withoutTerminator ['\n'] := rfl
        have hterminator : isLineTerminator '\n' = true := rfl
        simp [lines, lines_cons hreturn, hterminator, hpair, ih htext]
      · rw [withReturns_cons hchar, lines_cons hreturn, lines_cons hreturn]
        by_cases hterminator : isLineTerminator char = true
        · simp only [hterminator, if_true, List.map_cons, ih htext]
        · have hcons := withoutTerminator_cons hchar hreturn
          rw [if_neg hterminator, if_neg hterminator, map_ontoFirstLine (hcons []) hcons,
            map_ontoFirstLine (hcons []) hcons, ih htext]

/-- Reports that say the same about the same place and look the same, whatever name their source is
given. -/
structure Diagnostic.Agrees (diagnostic other : Diagnostic) : Prop where
  message : other.message = diagnostic.message
  filename : other.filename = diagnostic.filename
  start : diagnostic.span.start.SamePlace other.span.start
  stop : diagnostic.span.stop.SamePlace other.span.stop
  format : ∀ filename, other.format filename = diagnostic.format filename

private theorem sourceLine_eq_of_withReturns {diagnostic other : Diagnostic}
    (hreturn : '\r' ∉ diagnostic.source.toList)
    (hsource : other.source.toList = withReturns diagnostic.source.toList)
    (hstart : diagnostic.span.start.SamePlace other.span.start) :
    other.sourceLine = diagnostic.sourceLine := by
  have hnil : ∀ line : Option (List Char),
      withoutTerminator (line.getD []) = (line.map withoutTerminator).getD [] := by
    intro line
    cases line <;> rfl
  simp only [Diagnostic.sourceLine, Diagnostic.position, hnil, ← List.getElem?_map, hsource,
    hstart.1, map_withoutTerminator_lines_withReturns hreturn]

theorem Diagnostic.agrees_of_withReturns {diagnostic other : Diagnostic}
    (hreturn : '\r' ∉ diagnostic.source.toList)
    (hsource : other.source.toList = withReturns diagnostic.source.toList)
    (hmessage : other.message = diagnostic.message)
    (hfilename : other.filename = diagnostic.filename)
    (hstart : diagnostic.span.start.SamePlace other.span.start)
    (hstop : diagnostic.span.stop.SamePlace other.span.stop) : diagnostic.Agrees other where
  message := hmessage
  filename := hfilename
  start := hstart
  stop := hstop
  format := by
    intro filename
    have hline : other.position.line = diagnostic.position.line := hstart.1.symm
    have hcolumn : other.position.column = diagnostic.position.column := hstart.2.symm
    unfold Diagnostic.format
    rw [sourceLine_eq_of_withReturns hreturn hsource hstart, hmessage, hline, hcolumn]

private theorem report_withReturns {stream returned : TokenStream}
    {scanned others : List ScannedToken} (h : List.Forall₂ ScannedToken.Returned scanned others)
    (hreturn : '\r' ∉ stream.source.toList)
    (hsource : returned.source.toList = withReturns stream.source.toList)
    (hfilename : returned.filename = stream.filename) :
    List.Forall₂ Diagnostic.Agrees (stream.report scanned) (returned.report others) := by
  induction h with
  | nil => exact .nil
  | @cons token other scanned others htoken _ ih =>
      have hfault := htoken.fault
      cases htokenFault : token.fault with
      | none =>
          rw [htokenFault] at hfault
          simpa [TokenStream.report, ScannedToken.diagnostic?, htokenFault, hfault] using ih
      | some fault =>
          rw [htokenFault] at hfault
          simp only [TokenStream.report, List.filterMap_cons, ScannedToken.diagnostic?,
            htokenFault, hfault, Option.map_some, List.forall₂_cons]
          refine ⟨?_, ih⟩
          exact Diagnostic.agrees_of_withReturns hreturn hsource rfl hfilename htoken.token.place
            htoken.stop

end Reports

/-! ## Sources with carriage returns -/

private theorem return_notMem_of_mem_allTokens {stream : TokenStream}
    (hreturn : '\r' ∉ stream.source.toList) {token : Token} (htoken : token ∈ stream.allTokens) :
    '\r' ∉ token.text.toList := by
  obtain ⟨earlier, lexeme, later, hlexemes, rfl⟩ := mem_allTokens htoken
  rw [← stream.textOf_lexemes, hlexemes] at hreturn
  simp_all [Scanner.scanned]

/-- Ending the lines of a source with carriage returns too changes no category, place, colour or
report. -/
theorem forall₂_returned_of_withReturns (stream : TokenStream)
    (hreturn : '\r' ∉ stream.source.toList) :
    let returned : TokenStream :=
      { stream with source := String.ofList (withReturns stream.source.toList) }
    List.Forall₂ Token.Returned stream.allTokens returned.allTokens ∧
      Editor.encodeTokens returned.allTokens = Editor.encodeTokens stream.allTokens ∧
      List.Forall₂ Diagnostic.Agrees stream.diagnostics returned.diagnostics := by
  intro returned
  have hsource : returned.source.toList = withReturns stream.source.toList := String.toList_ofList
  have hscan : List.Forall₂ ScannedToken.Returned stream.scan returned.scan := by
    have hcut := stream.cut.withReturns hreturn
    rw [← hsource] at hcut
    have hlexemes : returned.lexemes = stream.lexemes.map Lexeme.withReturns :=
      hcut.eq_lexemes.symm
    rw [stream.scan_eq_placed, returned.scan_eq_placed, hlexemes]
    exact placed_withReturns ⟨rfl, rfl⟩ stream.lexemes
  have htokens : List.Forall₂ Token.Returned stream.allTokens returned.allTokens := by
    rw [TokenStream.allTokens, TokenStream.allTokens, List.forall₂_map_left_iff,
      List.forall₂_map_right_iff]
    exact hscan.imp fun _ _ hscanned => hscanned.token
  refine ⟨htokens, ?_, report_withReturns hscan hreturn hsource rfl⟩
  exact encodeTokens_eq_of_returned htokens fun _ => return_notMem_of_mem_allTokens hreturn

theorem forall₂_returned_of_withReturns_escape :
    let stream : TokenStream := ⟨⟨[]⟩, "#d//c\n\"\\\n\"/*\n", "input.hlsl"⟩
    let returned : TokenStream := ⟨⟨[]⟩, "#d//c\r\n\"\\\r\n\"/*\r\n", "input.hlsl"⟩
    '\r' ∉ stream.source.toList ∧
      List.Forall₂ Token.Returned stream.allTokens returned.allTokens ∧
      Editor.encodeTokens returned.allTokens =
        [0, 1, 1, 4, 0, 0, 1, 3, 7, 0, 1, 0, 2, 8, 0, 1, 0, 1, 8, 0, 0, 1, 2, 7, 0] ∧
      List.Forall₂ Diagnostic.Agrees stream.diagnostics returned.diagnostics := by
  intro stream returned
  have hreturn : '\r' ∉ stream.source.toList := by decide +kernel
  have hsource : String.ofList (withReturns stream.source.toList) = returned.source := by
    decide +kernel
  have hreturned := forall₂_returned_of_withReturns stream hreturn
  rw [hsource] at hreturned
  refine ⟨hreturn, hreturned.1, hreturned.2.1.trans ?_, hreturned.2.2⟩
  decide +kernel

end ShaderTokens
