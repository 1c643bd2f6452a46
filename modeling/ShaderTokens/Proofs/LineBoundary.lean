import ShaderTokens.Proofs.LexemeBoundary
import ShaderTokens.Proofs.SourcePlace

/-!
# Sources joined at a line boundary

A source that ends with a line feed and leaves nothing open can be scanned apart from what follows
it.  The scanner is then where it would be at the start of a source, except that it counts from
further down.
-/

namespace ShaderTokens

/-! ## Reading on behind a line feed -/

private theorem takeWhile_append_of_mem {Item : Type} {isMember : Item → Bool} {items : List Item}
    {item : Item} (hitem : item ∈ items) (hmember : isMember item = false) (rest : List Item) :
    (items ++ rest).takeWhile isMember = items.takeWhile isMember := by
  obtain ⟨before, after, rfl⟩ := List.append_of_mem hitem
  have hstops : StopsAt isMember (item :: after) := stopsAt_cons.mpr hmember
  have hstopsRest : StopsAt isMember (item :: (after ++ rest)) := stopsAt_cons.mpr hmember
  rw [List.append_assoc, List.cons_append, takeWhile_append_of_stopsAt before hstopsRest,
    takeWhile_append_of_stopsAt before hstops]

private theorem alike_append_of_lineFeed {chars : List Char} (hfeed : '\n' ∈ chars)
    (rest : List Char) :
    Alike chars (chars ++ rest) := by
  obtain ⟨shared, others, rfl⟩ := List.append_of_mem hfeed
  refine ⟨shared, '\n' :: others, '\n' :: (others ++ rest), rfl, by simp, ?_, ?_, by simp⟩ <;>
    simp [Lexeme.isSpace]

namespace Lexeme

theorem lineCommentBody_append_of_lineFeed {body : List Char} (hfeed : '\n' ∈ body)
    (rest : List Char) : lineCommentBody (body ++ rest) = lineCommentBody body := by
  fun_induction lineCommentBody body with
  | case1 => contradiction
  | case2 | case3 => rfl
  | case4 char others hchar hreturn ih =>
      have hothers : '\n' ∈ others := by
        rcases List.mem_cons.mp hfeed with heq | hothers
        · exact absurd heq.symm hchar
        · exact hothers
      obtain ⟨first, others, rfl⟩ := List.exists_cons_of_ne_nil (List.ne_nil_of_mem hothers)
      rw [List.cons_append, lineCommentBody, ih hothers]
      · exact hchar
      · rintro tail rfl heq
        rw [List.cons_append, List.cons.injEq] at heq
        exact hreturn others rfl (by rw [heq.1])

theorem blockCommentBody_append {body : List Char} (h : (blockCommentBody body).isClosed = true)
    (rest : List Char) : blockCommentBody (body ++ rest) = blockCommentBody body := by
  fun_induction blockCommentBody body with
  | case1 => contradiction
  | case2 others => rfl
  | case3 char others hcloses ih =>
      rw [List.cons_append, blockCommentBody, ih h]
      rintro tail rfl heq
      cases others with
      | nil => contradiction
      | cons next others =>
          rw [List.cons_append, List.cons.injEq] at heq
          exact hcloses others rfl (by rw [heq.1])

theorem stringBody_append_of_isClosed {body : List Char} (h : (stringBody body).isClosed = true)
    (rest : List Char) : stringBody (body ++ rest) = stringBody body := by
  obtain ⟨others, hbody⟩ := stringBody_isPrefix body
  calc
    stringBody (body ++ rest)
      = stringBody ((stringBody body).text ++ (others ++ rest)) := by
        rw [← List.append_assoc, hbody]
    _ = stringBody body := stringBody_append h _

private theorem read_append_of_lineFeed {lexicon : Lexicon} {context : LineContext} {first : Char}
    {others following : List Char} (hfeed : '\n' ∈ first :: others)
    (hfault : (read lexicon context first others).fault = none)
    (hfollowing : StopsAt isSpace following) :
    read lexicon context first (others ++ following) = read lexicon context first others := by
  have hform := form_read lexicon context first others
  generalize hread : read lexicon context first others = lexeme at hform hfault ⊢
  cases hform with
  | whitespace hspace =>
      rw [read_of_isSpace lexicon context hspace]
      simp only [whitespace, takeWhile_append_of_stopsAt others hfollowing]
  | lineComment body =>
      have hbody : '\n' ∈ body := by simpa using hfeed
      rw [List.cons_append, read_lineComment]
      simp only [lineComment, lineCommentBody_append_of_lineFeed hbody]
  | blockComment body =>
      have hclosed : (blockCommentBody body).isClosed = true := by
        simpa [blockComment] using hfault
      rw [List.cons_append, read_blockComment]
      simp only [blockComment, blockCommentBody_append hclosed]
  | stringLiteral =>
      have hclosed : (stringBody others).isClosed = true := by
        simpa [stringLiteral] using hfault
      rw [read_stringLiteral]
      simp only [stringLiteral, stringBody_append_of_isClosed hclosed]
  | hash =>
      have hothers : '\n' ∈ others := by simpa using hfeed
      obtain ⟨next, others, rfl⟩ := List.exists_cons_of_ne_nil (List.ne_nil_of_mem hothers)
      rw [read_hash]
      rfl
  | word hstart =>
      have hothers : '\n' ∈ others := by
        simpa [(ne_of_isIdentifierStart hstart (show isIdentifierStart '\n' = false from rfl)).symm]
          using hfeed
      rw [read_of_isIdentifierStart lexicon context hstart]
      simp only [word,
        takeWhile_append_of_mem hothers (show isIdentifierPart '\n' = false from rfl)]
  | number hbare | punctuation hbare =>
      have hfirst : first ≠ '\n' := by
        rintro rfl
        exact absurd hbare.not_space (by decide)
      have hothers : '\n' ∈ others := by simpa [hfirst.symm] using hfeed
      have hbareAppend : IsBare first ([] ++ others) := hbare
      rw [← hread]
      exact read_eq_of_isBare_of_alike lexicon context
        (alike_append_of_lineFeed hothers following) hbareAppend

/-! ## The context behind a line feed -/

private theorem lineFeed_notMem_of_number? {chars number : List Char}
    (h : number? chars = some number) :
    '\n' ∉ number := by
  by_cases hfeed : '\n' ∈ chars
  · obtain ⟨before, after, rfl, hbefore⟩ := List.eq_append_cons_of_mem hfeed
    have hstops : StopsAt Number.isPart ('\n' :: after) := stopsAt_cons.mpr rfl
    rw [number?_append hstops] at h
    exact fun hnumber => hbefore ((number?_isPrefix h).subset hnumber)
  · exact fun hnumber => hfeed ((number?_isPrefix h).subset hnumber)

theorem lineFeed_notMem_of_form {lexicon : Lexicon} {context : LineContext} {first : Char}
    {others : List Char} {lexeme : Lexeme} (h : Form lexicon context first others lexeme)
    (hgap : lexeme.category.isGap = false) (hstring : lexeme.category ≠ .stringLiteral) :
    '\n' ∉ lexeme.text := by
  cases h with
  | whitespace | lineComment | blockComment => contradiction
  | stringLiteral => contradiction
  | hash =>
      cases context with
      | blank | code => simp [hash]
      | directiveName | directive =>
          cases others with
          | nil => simp [hash, Number.suffix]
          | cons char others =>
              by_cases hchar : char = '#' <;> simp [hash, Number.suffix, hchar]
  | word hstart =>
      intro hfeed
      rcases List.mem_cons.mp hfeed with rfl | hfeed
      · contradiction
      · exact absurd (List.mem_takeWhile_imp hfeed) (by decide)
  | number _ hnumber => exact lineFeed_notMem_of_number? hnumber
  | punctuation hbare =>
      simp only [punctuation, List.mem_singleton]
      rintro rfl
      exact absurd hbare.not_space (by decide)

private theorem getLast?_stringBody {body : List Char} (h : (stringBody body).isClosed = true) :
    (stringBody body).text.getLast? = some '"' := by
  fun_induction stringBody body with
  | case1 => contradiction
  | case2 => rfl
  | case3 char others ih => simp [Delimited.cons, List.getLast?_cons, ih h]
  | case4 char others _ _ ih => simp [Delimited.cons, List.getLast?_cons, ih h]

private theorem context_eq_blank_of_form {lexicon : Lexicon} {context : LineContext} {first : Char}
    {others : List Char} {lexeme : Lexeme} (h : Form lexicon context first others lexeme)
    (hfault : lexeme.fault = none) (hlast : lexeme.text.getLast? = some '\n') :
    lexeme.context = .blank := by
  have hfeed := List.mem_of_getLast? hlast
  cases hgap : lexeme.category.isGap with
  | true => simp [context_of_form h, LineContext.next, hgap, LineContext.afterGap, hfeed]
  | false =>
      by_cases hstring : lexeme.category = .stringLiteral
      · -- a string may hold line feeds, but one that is closed ends with its quote
        obtain ⟨rfl, rfl⟩ := eq_stringLiteral_of_form h hstring
        have hclosed : (stringBody others).isClosed = true := by
          simpa [stringLiteral] using hfault
        simp [stringLiteral, List.getLast?_cons, getLast?_stringBody hclosed] at hlast
      · exact absurd hfeed (lineFeed_notMem_of_form h hgap hstring)

end Lexeme

/-! ## Cuts at a line boundary -/

section Cut

variable {lexicon : Lexicon} {context : LineContext} {chars : List Char} {cut : List Lexeme}

theorem Cut.append_of_lineEnd (h : Cut lexicon context chars cut)
    (hfault : ∀ lexeme ∈ cut, lexeme.fault = none)
    (hend : ∀ char ∈ chars.getLast?, char = '\n') {following : List Char} {later : List Lexeme}
    (hfollowing : StopsAt Lexeme.isSpace following)
    (hlater : Cut lexicon (context.nextAll cut) following later) :
    Cut lexicon context (chars ++ following) (cut ++ later) := by
  induction h with
  | done context => exact hlater
  | @next context first others rest lexeme cut hread htext hrest ih =>
      subst hread
      -- the line feed at the end is all that a lexeme needs to see of what follows it
      have hlast := List.getLast?_eq_some_getLast (List.cons_ne_nil first others)
      have hfeed : '\n' ∈ first :: others := hend _ hlast ▸ List.mem_of_getLast? hlast
      have hothers := Lexeme.read_append_of_lineFeed hfeed
        (hfault _ List.mem_cons_self) hfollowing
      have hwhole : first :: (others ++ following) =
          (Lexeme.read lexicon context first others).text ++ (rest ++ following) := by
        rw [← List.cons_append, htext, List.append_assoc]
      refine .next hothers hwhole (ih ?_ ?_ ?_)
      · exact fun lexeme hlexeme => hfault lexeme (List.mem_cons_of_mem _ hlexeme)
      · intro char hchar
        refine hend char ?_
        rw [htext]
        exact List.mem_getLast?_append_of_mem_getLast? hchar
      · rwa [Lexeme.context_read]

theorem Cut.nextAll_eq_blank (h : Cut lexicon context chars cut)
    (hfault : ∀ lexeme ∈ cut, lexeme.fault = none) (hend : chars.getLast? = some '\n') :
    context.nextAll cut = .blank := by
  induction h with
  | done => contradiction
  | @next context first others rest lexeme cut hread htext hrest ih =>
      subst hread
      have hform := Lexeme.form_read lexicon context first others
      have hnext : context.nextAll (Lexeme.read lexicon context first others :: cut) =
          (Lexeme.read lexicon context first others).context.nextAll cut := by
        rw [Lexeme.context_read]
        rfl
      rw [hnext]
      cases hrest with
      | done =>
          rw [htext, List.append_nil] at hend
          exact Lexeme.context_eq_blank_of_form hform (hfault _ List.mem_cons_self) hend
      | @next _ second others =>
          rw [htext, List.getLast?_append_of_ne_nil _ (List.cons_ne_nil second others)] at hend
          exact ih (fun lexeme hlexeme => hfault lexeme (List.mem_cons_of_mem _ hlexeme)) hend

end Cut

/-! ## Counting from further down -/

namespace Position

def shift (position : Position) (lines characters : Int) : Position :=
  ⟨position.line + lines, position.column, position.offset + characters⟩

@[simp] theorem after_shift (position : Position) (lines characters : Int) (text : List Char) :
    (position.shift lines characters).after text =
      (position.after text).shift lines characters := by
  induction text generalizing position with
  | nil => rfl
  | cons char text ih =>
      have hadvance : (position.shift lines characters).advance char =
          (position.advance char).shift lines characters := by
        by_cases hchar : char = '\n' <;> simp [advance, shift, hchar] <;> omega
      rw [after_cons, after_cons, hadvance, ih]

private theorem after_origin_of_lineEnd {text : List Char}
    (hend : ∀ char ∈ text.getLast?, char = '\n') :
    origin.after text = origin.shift (text.count '\n') text.length := by
  have hcolumn : (origin.after text).column = 1 := by
    rcases List.eq_nil_or_concat text with rfl | ⟨front, last, rfl⟩
    · rfl
    · obtain rfl : last = '\n' := hend last (by simp)
      simp [advance]
  have hline := line_after origin text
  have hoffset := offset_after origin text
  generalize origin.after text = position at hcolumn hline hoffset ⊢
  cases position
  simp_all [shift, origin]

end Position

def Span.shift (span : Span) (lines characters : Int) : Span :=
  ⟨span.start.shift lines characters, span.stop.shift lines characters⟩

def Token.shift (token : Token) (lines characters : Int) : Token :=
  { token with
    startOffset := token.startOffset + characters
    endOffset := token.endOffset + characters
    line := token.line + lines }

def ScannedToken.shift (scanned : ScannedToken) (lines characters : Int) : ScannedToken :=
  { scanned with
    token := scanned.token.shift lines characters
    stop := scanned.stop.shift lines characters }

@[simp] private theorem scanned_shift (start : Position) (lines characters : Int)
    (lexeme : Lexeme) :
    Scanner.scanned (start.shift lines characters) lexeme =
      (Scanner.scanned start lexeme).shift lines characters := by
  simp only [Scanner.scanned, Position.after_shift]
  rfl

private theorem placed_shift (start : Position) (lines characters : Int) (lexemes : List Lexeme) :
    placed (start.shift lines characters) lexemes =
      (placed start lexemes).map fun scanned => scanned.shift lines characters := by
  induction lexemes generalizing start with
  | nil => rfl
  | cons lexeme lexemes ih =>
      rw [placed, placed, List.map_cons, Position.after_shift, ih, scanned_shift]

/-! ## Streams over joined sources -/

theorem fault_eq_none_of_diagnostics_eq_nil {stream : TokenStream}
    (h : stream.diagnostics = []) : ∀ lexeme ∈ stream.lexemes, lexeme.fault = none := by
  intro lexeme hlexeme
  have hfault : lexeme.fault ∈ stream.scan.map ScannedToken.fault := by
    rw [stream.scan_eq_placed, map_fault_placed]
    exact List.mem_map_of_mem hlexeme
  obtain ⟨scanned, hscanned, hfault⟩ := List.mem_map.mp hfault
  have hnone := List.filterMap_eq_nil_iff.mp h scanned hscanned
  rw [← hfault]
  exact Option.map_eq_none_iff.mp hnone

private theorem diagnostic?_shift (scanned : ScannedToken) (lines characters : Int)
    (source whole filename : String) :
    (scanned.shift lines characters).diagnostic? whole filename =
      (scanned.diagnostic? source filename).map fun diagnostic =>
        { diagnostic with span := diagnostic.span.shift lines characters, source := whole } := by
  simp only [ScannedToken.diagnostic?, Option.map_map]
  rfl

section Streams

variable {lexicon : Lexicon} {filename first second : String}
  (hend : ∀ char ∈ first.toList.getLast?, char = '\n')
  (hclean : (TokenStream.mk lexicon first filename).diagnostics = [])
  (hstart : ∀ char ∈ second.toList.head?, Lexeme.isSpace char = false)

include hend hclean hstart

private theorem lexemes_append_of_lineEnd :
    (TokenStream.mk lexicon (first ++ second) filename).lexemes =
      (TokenStream.mk lexicon first filename).lexemes ++
        (TokenStream.mk lexicon second filename).lexemes := by
  have hfault := fault_eq_none_of_diagnostics_eq_nil hclean
  have hcut := cut_lexemes lexicon .blank first.toList
  have hcontext : LineContext.blank.nextAll (lexemes lexicon .blank first.toList) = .blank := by
    cases hlast : first.toList.getLast? with
    | none =>
        rw [List.getLast?_eq_none_iff.mp hlast, lexemes_nil]
        rfl
    | some char => exact hcut.nextAll_eq_blank hfault (by rw [hlast, hend char hlast])
  have hlater := cut_lexemes lexicon .blank second.toList
  rw [← hcontext] at hlater
  have hwhole := hcut.append_of_lineEnd hfault hend hstart hlater
  rw [hcontext, ← String.toList_append] at hwhole
  exact hwhole.eq_lexemes.symm

private theorem scan_append_of_lineEnd :
    (TokenStream.mk lexicon (first ++ second) filename).scan =
      (TokenStream.mk lexicon first filename).scan ++
        (TokenStream.mk lexicon second filename).scan.map fun scanned =>
          scanned.shift (first.toList.count '\n') first.length := by
  simp only [TokenStream.scan_eq_placed]
  rw [lexemes_append_of_lineEnd hend hclean hstart, placed_append, TokenStream.textOf_lexemes,
    Position.after_origin_of_lineEnd hend, placed_shift, String.length_toList]

end Streams

/-- Behind a source that ends its last line and leaves nothing open, a source is scanned as it is
alone. -/
theorem allTokens_append_of_lineEnd (lexicon : Lexicon) (filename first second : String)
    (hend : ∀ char ∈ first.toList.getLast?, char = '\n')
    (hclean : (TokenStream.mk lexicon first filename).diagnostics = [])
    (hstart : ∀ char ∈ second.toList.head?, Lexeme.isSpace char = false) :
    let stream := fun source => TokenStream.mk lexicon source filename
    let lines : Int := first.toList.count '\n'
    let characters : Int := first.length
    (stream (first ++ second)).allTokens =
        (stream first).allTokens ++
          (stream second).allTokens.map (fun token => token.shift lines characters) ∧
      (stream (first ++ second)).diagnostics =
        (stream second).diagnostics.map fun diagnostic =>
          { diagnostic with
            span := diagnostic.span.shift lines characters
            source := first ++ second } := by
  intro stream lines characters
  have hscan := scan_append_of_lineEnd hend hclean hstart
  constructor
  · simp only [TokenStream.allTokens, stream, hscan, List.map_append, List.map_map]
    rfl
  · have hnone : ∀ scanned ∈ (stream first).scan,
        scanned.diagnostic? (first ++ second) filename = none := by
      intro scanned hscanned
      have hfirst := List.filterMap_eq_nil_iff.mp hclean scanned hscanned
      exact Option.map_eq_none_iff.mpr (Option.map_eq_none_iff.mp hfirst)
    simp only [TokenStream.diagnostics, TokenStream.report, stream, hscan, List.filterMap_append,
      List.filterMap_eq_nil_iff.mpr hnone, List.nil_append, List.filterMap_map, List.map_filterMap]
    refine List.filterMap_congr fun scanned _ => ?_
    exact diagnostic?_shift scanned lines characters second (first ++ second) filename

theorem allTokens_append_of_lineEnd_directive :
    let first := "#if x /*\n*/ #y\n"
    let second := "#\"z"
    let stream := fun source => TokenStream.mk ⟨[]⟩ source "input.hlsl"
    let reports := [Diagnostic.mk "unterminated string literal" ⟨⟨3, 2, 16⟩, ⟨3, 4, 18⟩⟩
      "#if x /*\n*/ #y\n#\"z" "input.hlsl"]
    (∀ char ∈ first.toList.getLast?, char = '\n') ∧ (stream first).diagnostics = [] ∧
      (∀ char ∈ second.toList.head?, Lexeme.isSpace char = false) ∧
      (stream (first ++ second)).allTokens =
        (stream first).allTokens ++
          [⟨"#", .punctuation, 15, 16, 3, 1⟩, ⟨"\"z", .stringLiteral, 16, 18, 3, 2⟩] ∧
      (stream (first ++ second)).diagnostics = reports := by
  intro first second stream reports
  have hlast : first.toList.getLast? = some '\n' := by decide +kernel
  have hend : ∀ char ∈ first.toList.getLast?, char = '\n' := by simp [hlast]
  have hclean : (stream first).diagnostics = [] := by decide +kernel
  have hhead : second.toList.head? = some '#' := by decide +kernel
  have hstart : ∀ char ∈ second.toList.head?, Lexeme.isSpace char = false := by
    simp [hhead, Lexeme.isSpace]
  have hjoined := allTokens_append_of_lineEnd ⟨[]⟩ "input.hlsl" first second hend hclean hstart
  refine ⟨hend, hclean, hstart, hjoined.1.trans ?_, hjoined.2.trans ?_⟩
  · rw [List.append_cancel_left_eq]
    decide +kernel
  · decide +kernel

end ShaderTokens
