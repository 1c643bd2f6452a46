import Mathlib.Algebra.Group.Nat.Even
import Mathlib.Data.List.DropRight
import ShaderTokens.CommandLine.Report
import ShaderTokens.Proofs.LexemeBoundary
import ShaderTokens.Proofs.Tiling

/-!
# Constructs that are left open

Only the last token of a source can lack its closing delimiter, and whether it does can be seen from
its text.  A complete pass reports that token and nothing else.
-/

namespace ShaderTokens

/-! ## Escapes -/

/-- A character behind the text is escaped: an odd number of backslashes stands right before it. -/
def EndsInEscape (before : List Char) : Prop := ¬ Even (before.rtakeWhile (· = '\\')).length

@[simp] theorem not_endsInEscape_nil : ¬ EndsInEscape [] := by
  simp [EndsInEscape]

@[simp] theorem endsInEscape_append_singleton (before : List Char) (char : Char) :
    EndsInEscape (before ++ [char]) ↔ char = '\\' ∧ ¬ EndsInEscape before := by
  unfold EndsInEscape
  rw [List.rtakeWhile_concat]
  by_cases hchar : char = '\\' <;> simp [hchar, Nat.even_add_one]

theorem endsInEscape_backslash : EndsInEscape ['\\'] :=
  (endsInEscape_append_singleton [] '\\').mpr ⟨rfl, not_endsInEscape_nil⟩

theorem endsInEscape_cons {char : Char} (hchar : char ≠ '\\') (before : List Char) :
    EndsInEscape (char :: before) ↔ EndsInEscape before := by
  induction before using List.reverseRecOn with
  | nil =>
      have hsingle := endsInEscape_append_singleton [] char
      simpa [hchar] using hsingle
  | append_singleton before last ih =>
      rw [← List.cons_append, endsInEscape_append_singleton, endsInEscape_append_singleton, ih]

@[simp] theorem endsInEscape_pair (char : Char) (before : List Char) :
    EndsInEscape ('\\' :: char :: before) ↔ EndsInEscape before := by
  induction before using List.reverseRecOn with
  | nil =>
      have hpair := endsInEscape_append_singleton ['\\'] char
      simpa [endsInEscape_backslash] using hpair
  | append_singleton before last ih =>
      rw [← List.cons_append, ← List.cons_append, endsInEscape_append_singleton,
        endsInEscape_append_singleton, ih]

/-! ## Closing delimiters -/

def HasClosingQuote (body : List Char) : Prop :=
  ∃ before after, body = before ++ '"' :: after ∧ ¬ EndsInEscape before

@[simp] theorem not_hasClosingQuote_nil : ¬ HasClosingQuote [] := by
  rintro ⟨before, after, hbody, -⟩
  simp at hbody

theorem hasClosingQuote_quote (others : List Char) : HasClosingQuote ('"' :: others) :=
  ⟨[], others, rfl, not_endsInEscape_nil⟩

theorem hasClosingQuote_cons {char : Char} (hquote : char ≠ '"') (hbackslash : char ≠ '\\')
    (others : List Char) : HasClosingQuote (char :: others) ↔ HasClosingQuote others := by
  constructor
  · rintro ⟨before, after, hbody, hescape⟩
    cases before with
    | nil => exact absurd (List.cons.inj hbody).1 hquote
    | cons first before =>
        obtain ⟨rfl, rfl⟩ := List.cons.inj hbody
        exact ⟨before, after, rfl, by rwa [endsInEscape_cons hbackslash] at hescape⟩
  · rintro ⟨before, after, rfl, hescape⟩
    exact ⟨char :: before, after, rfl, by rwa [endsInEscape_cons hbackslash]⟩

private theorem not_hasClosingQuote_backslash : ¬ HasClosingQuote ['\\'] := by
  rintro ⟨before, after, hbody, -⟩
  cases before <;> simp at hbody

@[simp] private theorem hasClosingQuote_pair (char : Char) (others : List Char) :
    HasClosingQuote ('\\' :: char :: others) ↔ HasClosingQuote others := by
  constructor
  · rintro ⟨before, after, hbody, hescape⟩
    match before with
    | [] => simp at hbody
    | [first] =>
        obtain rfl : '\\' = first := (List.cons.inj hbody).1
        exact absurd endsInEscape_backslash hescape
    | first :: second :: before =>
        simp only [List.cons_append, List.cons.injEq] at hbody
        obtain ⟨rfl, rfl, rfl⟩ := hbody
        exact ⟨before, after, rfl, by rwa [endsInEscape_pair] at hescape⟩
  · rintro ⟨before, after, rfl, hescape⟩
    exact ⟨'\\' :: char :: before, after, rfl, by rwa [endsInEscape_pair]⟩

namespace Lexeme

theorem isClosed_stringBody_iff (body : List Char) :
    (stringBody body).isClosed = true ↔ HasClosingQuote body := by
  fun_induction stringBody body with
  | case1 => simp
  | case2 others => simp [hasClosingQuote_quote]
  | case3 char others ih => rw [hasClosingQuote_pair, ← ih, Delimited.cons, Delimited.cons]
  | case4 char others hquote hescape ih =>
      by_cases hbackslash : char = '\\'
      · -- A backslash escapes whatever comes next, so it is the last character.
        subst hbackslash
        cases others with
        | nil => simp [stringBody, Delimited.cons, not_hasClosingQuote_backslash]
        | cons next others => exact absurd rfl (hescape next others rfl)
      · rw [hasClosingQuote_cons hquote hbackslash, ← ih, Delimited.cons]

theorem isClosed_blockCommentBody_iff (body : List Char) :
    (blockCommentBody body).isClosed = true ↔ ['*', '/'] <:+: body := by
  fun_induction blockCommentBody body with
  | case1 => simp
  | case2 others => simpa using (List.prefix_append ['*', '/'] others).isInfix
  | case3 char others hcloses ih =>
      have hprefix : ¬ ['*', '/'] <+: char :: others := by
        rintro ⟨after, heq⟩
        simp only [List.cons_append, List.nil_append, List.cons.injEq] at heq
        exact hcloses after heq.1.symm heq.2.symm
      rw [List.infix_cons_iff, or_iff_right hprefix, ← ih, Delimited.cons]

theorem text_blockCommentBody_of_not_isClosed {body : List Char}
    (h : (blockCommentBody body).isClosed = false) : (blockCommentBody body).text = body := by
  fun_induction blockCommentBody body with
  | case1 => rfl
  | case2 others => contradiction
  | case3 char others _ ih => simp [Delimited.cons, ih h]

private theorem isSuffix_blockCommentBody {body : List Char}
    (h : (blockCommentBody body).isClosed = true) :
    ['*', '/'] <:+ (blockCommentBody body).text := by
  fun_induction blockCommentBody body with
  | case1 => contradiction
  | case2 others => exact List.suffix_rfl
  | case3 char others _ ih => exact (ih h).trans (List.suffix_cons _ _)

@[simp] theorem isInfix_blockCommentBody_iff (body : List Char) :
    ['*', '/'] <:+: (blockCommentBody body).text ↔ (blockCommentBody body).isClosed = true := by
  cases hclosed : (blockCommentBody body).isClosed with
  | true => simpa using (isSuffix_blockCommentBody hclosed).isInfix
  | false =>
      rw [text_blockCommentBody_of_not_isClosed hclosed, ← isClosed_blockCommentBody_iff, hclosed]

@[simp] theorem hasClosingQuote_stringBody_iff (body : List Char) :
    HasClosingQuote (stringBody body).text ↔ (stringBody body).isClosed = true := by
  rw [← isClosed_stringBody_iff]
  cases hclosed : (stringBody body).isClosed with
  | true =>
      have happend := stringBody_append hclosed []
      rw [List.append_nil] at happend
      rw [happend, hclosed]
  | false => rw [text_stringBody_of_not_isClosed hclosed, hclosed]

end Lexeme

/-! ## Lexemes that are left open -/

def Unterminated.IsLeftOpen : Unterminated → List Char → Category → Prop
  | .blockComment, text, category =>
    category = .comment ∧ ∃ body, text = '/' :: '*' :: body ∧ ¬ ['*', '/'] <:+: body
  | .stringLiteral, text, category =>
    category = .stringLiteral ∧ ∃ body, text = '"' :: body ∧ ¬ HasClosingQuote body

namespace Lexeme

variable {lexicon : Lexicon} {context : LineContext} {first : Char} {others : List Char}
  {lexeme : Lexeme}

private theorem fault_eq_some_iff_of_form (h : Form lexicon context first others lexeme)
    (fault : Unterminated) :
    lexeme.fault = some fault ↔ fault.IsLeftOpen lexeme.text lexeme.category := by
  cases h with
  | whitespace => cases fault <;> simp [whitespace, Unterminated.IsLeftOpen]
  | lineComment body => cases fault <;> simp [lineComment, Unterminated.IsLeftOpen]
  | blockComment body =>
      cases hclosed : (blockCommentBody body).isClosed <;> cases fault <;>
        simp [blockComment, Unterminated.IsLeftOpen, hclosed]
  | stringLiteral =>
      cases hclosed : (stringBody others).isClosed <;> cases fault <;>
        simp [stringLiteral, Unterminated.IsLeftOpen, hclosed]
  | hash => cases context <;> cases fault <;> simp [hash, Unterminated.IsLeftOpen]
  | word =>
      have hcomment := ne_wordCategory (show Category.isWord .comment = false from rfl)
      have hstring := ne_wordCategory (show Category.isWord .stringLiteral = false from rfl)
      cases fault <;> simp [word, Unterminated.IsLeftOpen, hcomment, hstring]
  | number => cases fault <;> simp [Unterminated.IsLeftOpen]
  | punctuation => cases fault <;> simp [punctuation, Unterminated.IsLeftOpen]

private theorem text_eq_of_form_of_fault (h : Form lexicon context first others lexeme)
    (hfault : lexeme.fault ≠ none) : lexeme.text = first :: others := by
  cases h with
  | whitespace | lineComment | number | punctuation | word => contradiction
  | blockComment body =>
      have hclosed : (blockCommentBody body).isClosed = false := by
        simpa [blockComment] using hfault
      simp only [blockComment, text_blockCommentBody_of_not_isClosed hclosed]
  | stringLiteral =>
      have hclosed : (stringBody others).isClosed = false := by
        simpa [stringLiteral] using hfault
      simp only [stringLiteral, text_stringBody_of_not_isClosed hclosed]
  | hash => cases context <;> contradiction

end Lexeme

theorem eq_nil_of_textOf_eq_nil {lexemes : List Lexeme} (h : textOf lexemes = []) :
    lexemes = [] := by
  cases lexemes with
  | nil => rfl
  | cons lexeme lexemes => exact absurd (List.append_eq_nil_iff.mp h).1 lexeme.text_ne_nil

theorem Cut.eq_nil_of_fault {lexicon : Lexicon} {context : LineContext} {chars : List Char}
    {earlier later : List Lexeme} {lexeme : Lexeme}
    (h : Cut lexicon context chars (earlier ++ lexeme :: later)) (hfault : lexeme.fault ≠ none) :
    later = [] := by
  obtain ⟨first, others, hform, htext⟩ := h.form_of_append
  rw [Lexeme.text_eq_of_form_of_fault hform hfault, List.self_eq_append_right] at htext
  exact eq_nil_of_textOf_eq_nil htext

/-! ## What a complete pass reports -/

def Token.IsLeftOpen (token : Token) (fault : Unterminated) : Prop :=
  fault.IsLeftOpen token.text.toList token.category

theorem stop_scanned (start : Position) (lexeme : Lexeme) :
    (Scanner.scanned start lexeme).stop = (Scanner.scanned start lexeme).token.stop := by
  simp [Scanner.scanned, Token.stop, Token.start, -Position.offset_after]

namespace TokenStream

def EndsOpen (stream : TokenStream) : Prop :=
  ∃ last ∈ stream.allTokens.getLast?, ∃ fault, last.IsLeftOpen fault

section Scan

variable {stream : TokenStream} {scanned : ScannedToken}

theorem exists_of_mem_scan (h : scanned ∈ stream.scan) :
    ∃ earlier lexeme later, stream.lexemes = earlier ++ lexeme :: later ∧
      scanned = Scanner.scanned (.after .origin (textOf earlier)) lexeme := by
  rw [scan_eq_placed] at h
  exact mem_placed h

theorem stop_of_mem_scan (h : scanned ∈ stream.scan) : scanned.stop = scanned.token.stop := by
  obtain ⟨earlier, lexeme, later, -, rfl⟩ := exists_of_mem_scan h
  exact stop_scanned _ _

theorem fault_eq_some_iff (h : scanned ∈ stream.scan) (fault : Unterminated) :
    scanned.fault = some fault ↔ scanned.token.IsLeftOpen fault := by
  obtain ⟨earlier, lexeme, later, hlexemes, rfl⟩ := exists_of_mem_scan h
  have hcut := stream.cut
  rw [hlexemes] at hcut
  obtain ⟨first, others, hform, -⟩ := hcut.form_of_append
  simpa [Scanner.scanned, Token.IsLeftOpen] using Lexeme.fault_eq_some_iff_of_form hform fault

theorem fault_eq_none_of_mem_dropLast (h : scanned ∈ stream.scan.dropLast) :
    scanned.fault = none := by
  rcases List.eq_nil_or_concat' stream.lexemes with hnil | ⟨front, last, hlexemes⟩
  · rw [scan_eq_placed, hnil, placed] at h
    contradiction
  · rw [scan_eq_placed, hlexemes, placed_append, placed, placed, List.dropLast_concat] at h
    obtain ⟨earlier, lexeme, later, hfront, rfl⟩ := mem_placed h
    by_contra hfault
    have hcut := stream.cut
    rw [hlexemes, hfront, List.append_assoc, List.cons_append] at hcut
    have hlater := hcut.eq_nil_of_fault hfault
    simp at hlater

private theorem endOffset_of_mem_getLast? (h : scanned ∈ stream.scan.getLast?) :
    scanned.token.endOffset = stream.source.length := by
  rw [scan_eq_placed] at h
  rw [endOffset_getLast?_placed _ _ scanned h, textOf_lexemes, Position.offset_after]
  simp [Position.origin, String.length_toList]

end Scan

/-- What a complete pass reports is what is wrong with the last token. -/
theorem diagnostics_eq_getLast? (stream : TokenStream) :
    stream.diagnostics =
      (stream.scan.getLast?.bind fun last =>
        last.diagnostic? stream.source stream.filename).toList := by
  have hdropLast : ∀ scanned ∈ stream.scan.dropLast,
      scanned.diagnostic? stream.source stream.filename = none := by
    intro scanned hscanned
    exact Option.map_eq_none_iff.mpr (fault_eq_none_of_mem_dropLast hscanned)
  unfold diagnostics report
  rcases List.eq_nil_or_concat' stream.scan with hnil | ⟨front, last, hscan⟩
  · rw [hnil]
    rfl
  · rw [hscan, List.dropLast_concat] at hdropLast
    rw [hscan, List.filterMap_append, List.filterMap_eq_nil_iff.mpr hdropLast, List.nil_append,
      List.getLast?_concat, Option.bind_some]
    cases hlast : last.diagnostic? stream.source stream.filename <;> simp [hlast]

theorem length_diagnostics_le (stream : TokenStream) : stream.diagnostics.length ≤ 1 := by
  rw [stream.diagnostics_eq_getLast?]
  exact Option.length_toList_le

private theorem filename_of_mem_diagnostics {stream : TokenStream} {diagnostic : Diagnostic}
    (h : diagnostic ∈ stream.diagnostics) : diagnostic.filename = stream.filename := by
  obtain ⟨scanned, -, hscanned⟩ := List.mem_filterMap.mp h
  obtain ⟨fault, -, rfl⟩ := Option.map_eq_some_iff.mp hscanned
  rfl

theorem diagnostics_eq_nil_iff (stream : TokenStream) :
    stream.diagnostics = [] ↔ ¬ stream.EndsOpen := by
  rw [diagnostics_eq_getLast?, Option.toList_eq_nil_iff, EndsOpen, allTokens, List.getLast?_map]
  cases hlast : stream.scan.getLast? with
  | none => simp
  | some last =>
      have hfault := fault_eq_some_iff (List.mem_of_getLast? hlast)
      simp only [Option.bind_some, ScannedToken.diagnostic?, Option.map_eq_none_iff,
        Option.map_some, Option.mem_def, Option.some.injEq, exists_eq_left', ← hfault]
      cases last.fault <;> simp

end TokenStream

open CommandLine in
/-- How a program that is asked for the tokens of a stream ends: with status 1 and the one report if
the last token is left open, and otherwise with status 0 and no report. -/
def EndsByReport (stream : TokenStream) (settings : Settings) (outcome : Outcome) : Prop :=
  let summary := if settings.debug then stream.lexicon.summary else ""
  (stream.EndsOpen ∧ outcome.status = 1 ∧ ∃ diagnostic, stream.diagnostics = [diagnostic] ∧
      outcome.errors = summary ++ (diagnostic.format stream.filename ++ "\n")) ∨
    (¬ stream.EndsOpen ∧ outcome.status = 0 ∧ outcome.errors = summary)

/-- What a complete pass over a stream reports, told from the tokens. -/
structure ReportsOpenEnd (stream : TokenStream) : Prop where
  atMostOne : stream.diagnostics.length ≤ 1
  reports_iff : stream.diagnostics ≠ [] ↔ stream.EndsOpen
  describes : ∀ diagnostic ∈ stream.diagnostics, ∃ last ∈ stream.allTokens.getLast?,
    ∃ fault : Unterminated, last.IsLeftOpen fault ∧ diagnostic.message = fault.message ∧
      diagnostic.span = last.span ∧ diagnostic.span.stop.offset = stream.source.length
  earlierClosed : ∀ token ∈ stream.allTokens.dropLast, ∀ fault, ¬ token.IsLeftOpen fault
  ends : ∀ settings : CommandLine.Settings, settings.classified = [] →
    let outcome := settings.reportWith stream.lexicon stream.source stream.filename
    EndsByReport stream settings outcome ∧
      (Lexicon.ofOptions settings.options = .ok stream.lexicon →
        settings.report stream.source stream.filename = .ok outcome)

theorem endsByReport (stream : TokenStream) {settings : CommandLine.Settings}
    (hclassified : settings.classified = []) :
    EndsByReport stream settings
      (settings.reportWith stream.lexicon stream.source stream.filename) := by
  cases hdiagnostics : stream.diagnostics with
  | nil =>
      refine .inr ⟨stream.diagnostics_eq_nil_iff.mp hdiagnostics, ?_, ?_⟩
      · simp [CommandLine.Settings.reportWith, hclassified, hdiagnostics]
      · simp [CommandLine.Settings.reportWith, hclassified, hdiagnostics,
          CommandLine.Settings.diagnosticLines]
  | cons diagnostic others =>
      have hlength := stream.length_diagnostics_le
      rw [hdiagnostics, List.length_cons] at hlength
      obtain rfl : others = [] := List.eq_nil_of_length_eq_zero (by omega)
      have hfilename : diagnostic.filename = stream.filename :=
        TokenStream.filename_of_mem_diagnostics (hdiagnostics ▸ List.mem_cons_self)
      have hopen : stream.EndsOpen := by
        by_contra hclosed
        rw [stream.diagnostics_eq_nil_iff.mpr hclosed] at hdiagnostics
        contradiction
      refine .inl ⟨hopen, ?_, diagnostic, hdiagnostics, ?_⟩
      · simp [CommandLine.Settings.reportWith, hclassified, hdiagnostics]
      · simp [CommandLine.Settings.reportWith, hclassified, hdiagnostics,
          CommandLine.Settings.diagnosticLines, hfilename]

theorem reportsOpenEnd (stream : TokenStream) : ReportsOpenEnd stream where
  atMostOne := stream.length_diagnostics_le
  reports_iff := by
    rw [Ne, stream.diagnostics_eq_nil_iff, not_not]
  describes := by
    intro diagnostic hdiagnostic
    rw [stream.diagnostics_eq_getLast?, Option.mem_toList, Option.bind_eq_some_iff] at hdiagnostic
    obtain ⟨last, hlast, hdiagnostic⟩ := hdiagnostic
    have hmem := List.mem_of_getLast? hlast
    obtain ⟨fault, hfault, rfl⟩ := Option.map_eq_some_iff.mp hdiagnostic
    have hopen := (TokenStream.fault_eq_some_iff hmem fault).mp hfault
    refine ⟨last.token, ?_, fault, hopen, rfl, ?_, ?_⟩
    · rw [TokenStream.allTokens, List.getLast?_map, hlast]
      rfl
    · rw [TokenStream.stop_of_mem_scan hmem]
      rfl
    · rw [TokenStream.stop_of_mem_scan hmem]
      exact TokenStream.endOffset_of_mem_getLast? hlast
  earlierClosed := by
    intro token htoken fault hopen
    rw [TokenStream.allTokens, ← List.map_dropLast] at htoken
    obtain ⟨scanned, hscanned, rfl⟩ := List.mem_map.mp htoken
    have hnone := TokenStream.fault_eq_none_of_mem_dropLast hscanned
    have hmem := List.mem_of_mem_dropLast hscanned
    rw [(TokenStream.fault_eq_some_iff hmem fault).mpr hopen] at hnone
    contradiction
  ends := by
    intro settings hclassified outcome
    refine ⟨endsByReport stream hclassified, ?_⟩
    intro hlexicon
    rw [CommandLine.Settings.report, hlexicon]
    rfl

example :
    (TokenStream.mk ⟨[]⟩ "\"\\\\\" /*/" "sky.hlsl").diagnostics.map
        (fun diagnostic => (diagnostic.message, diagnostic.span)) =
      [("unterminated block comment", ⟨⟨1, 6, 5⟩, ⟨1, 9, 8⟩⟩)] := by
  decide +kernel

end ShaderTokens
