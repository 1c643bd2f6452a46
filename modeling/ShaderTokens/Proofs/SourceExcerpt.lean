import ShaderTokens.Proofs.CarriageReturns
import ShaderTokens.Proofs.FrontEnds
import ShaderTokens.Proofs.SourceCoordinates

/-!
# The line that a report shows

A report counts lines by their line feeds, as the scanner does, but takes the line that it shows
from a list that is cut at other characters too.  It shows the right line where none of these stands
above that line or inside it.
-/

namespace ShaderTokens

namespace Text

theorem ne_of_isLineTerminator {char terminator : Char} (h : isLineTerminator char = false)
    (hterminator : isLineTerminator terminator = true) : char ≠ terminator := by
  rintro rfl
  rw [h] at hterminator
  contradiction

/-! ## Lines between line feeds -/

def firstLine : List Char → List Char
  | [] => []
  | '\n' :: _ => []
  | '\r' :: '\n' :: _ => []
  | char :: others => char :: firstLine others

private theorem lineFeed_notMem_firstLine (text : List Char) : '\n' ∉ firstLine text := by
  fun_induction firstLine text with
  | case1 | case2 | case3 => exact List.not_mem_nil
  | case4 char others hfeed _ ih => simp [ih, Ne.symm hfeed]

theorem firstLine_cons {char : Char} {others : List Char} (hchar : char ≠ '\n')
    (hnext : others.head? ≠ some '\n') : firstLine (char :: others) = char :: firstLine others := by
  rw [firstLine]
  · exact hchar
  · rintro rest - rfl
    exact hnext rfl

private theorem length_lt_firstLine {start : List Char} {first : Char} (hstart : '\n' ∉ start)
    (hfirst : isLineTerminator first = false) (others : List Char) :
    start.length < (firstLine (start ++ first :: others)).length := by
  have hfeed : first ≠ '\n' := ne_of_isLineTerminator hfirst rfl
  induction start with
  | nil =>
      rw [List.nil_append, firstLine, List.length_cons]
      · exact Nat.succ_pos _
      · exact hfeed
      · exact fun rest hreturn => absurd hreturn (ne_of_isLineTerminator hfirst rfl)
  | cons char start ih =>
      obtain ⟨hchar, hothers⟩ := not_or.mp (mt List.mem_cons.mpr hstart)
      have hnext : (start ++ first :: others).head? ≠ some '\n' := by
        cases start with
        | nil => simpa using hfeed
        | cons next start => simpa using Ne.symm (not_or.mp (mt List.mem_cons.mpr hothers)).1
      rw [List.cons_append, firstLine_cons (Ne.symm hchar) hnext, List.length_cons,
        List.length_cons]
      exact Nat.succ_lt_succ (ih hothers)

def EndsLine (text : List Char) : Prop := ∀ char ∈ text.getLast?, char = '\n'

private theorem exists_lastLineStart_eq (text : List Char) :
    ∃ above start, text = above ++ start ∧ lastLineStart text = above.length ∧ '\n' ∉ start ∧
      EndsLine above := by
  unfold lastLineStart
  cases hfeed : lastLineFeed? text with
  | none => exact ⟨[], text, rfl, rfl, lastLineFeed?_eq_none_iff.mp hfeed, by simp [EndsLine]⟩
  | some index =>
      obtain ⟨before, start, rfl, hstart, rfl⟩ := exists_of_lastLineFeed?_eq_some hfeed
      exact ⟨before ++ ['\n'], start, by simp, by simp, hstart, by simp [EndsLine]⟩

/-! ## Lines that are cut at every terminator -/

@[simp] theorem lines_pair (others : List Char) :
    lines ('\r' :: '\n' :: others) = ['\r', '\n'] :: lines others := by
  rw [lines]

theorem lines_ne_nil {text : List Char} (h : text ≠ []) : lines text ≠ [] := by
  intro hlines
  rw [← flatten_lines text, hlines] at h
  contradiction

theorem ontoFirstLine_append {first : List (List Char)} (h : first ≠ []) (start : List Char)
    (second : List (List Char)) :
    ontoFirstLine start (first ++ second) = ontoFirstLine start first ++ second := by
  cases first with
  | nil => contradiction
  | cons line first => rfl

private theorem length_ontoFirstLine {others : List (List Char)} (h : others ≠ [])
    (start : List Char) :
    (ontoFirstLine start others).length = others.length := by
  cases others with
  | nil => contradiction
  | cons line others => rfl

section EndsLine

variable {char : Char} {others : List Char} (h : EndsLine (char :: others))

include h

theorem EndsLine.of_cons : EndsLine others :=
  fun last hlast => h last (List.mem_getLast?_cons hlast)

theorem EndsLine.ne_nil (hchar : char ≠ '\n') : others ≠ [] := by
  rintro rfl
  exact hchar (h char rfl)

theorem EndsLine.not_pair_append
    (hpair : ∀ rest, char = '\r' → others = '\n' :: rest → False) (following rest : List Char) :
    char = '\r' → others ++ following = '\n' :: rest → False := by
  rintro rfl hothers
  obtain ⟨next, others, rfl⟩ := List.exists_cons_of_ne_nil (h.ne_nil (by decide))
  rw [List.cons_append, List.cons.injEq] at hothers
  exact hpair others rfl (by rw [hothers.1])

end EndsLine

theorem lines_append {front : List Char} (hend : EndsLine front) (rest : List Char) :
    lines (front ++ rest) = lines front ++ lines rest := by
  fun_induction lines front with
  | case1 => rfl
  | case2 others ih =>
      rw [List.cons_append, List.cons_append, lines_pair, ih hend.of_cons.of_cons,
        List.cons_append]
  | case3 char others hpair hterminator ih =>
      rw [List.cons_append, lines, if_pos hterminator, ih hend.of_cons, List.cons_append]
      exact hend.not_pair_append hpair rest
  | case4 char others hpair hterminator ih =>
      have hne : others ≠ [] := hend.ne_nil fun hchar => hterminator (hchar ▸ rfl)
      rw [List.cons_append, lines, if_neg hterminator, ih hend.of_cons,
        ontoFirstLine_append (lines_ne_nil hne)]
      exact hend.not_pair_append hpair rest

/-- The lines of a text end with line feeds and with nothing else, carriage returns in front of
line feeds apart. -/
def endsLinesByFeed : List Char → Bool
  | [] => true
  | '\r' :: '\n' :: others => endsLinesByFeed others
  | char :: others => (char = '\n' || !isLineTerminator char) && endsLinesByFeed others

private theorem length_lines_of_endsLinesByFeed {text : List Char} (hend : EndsLine text)
    (h : endsLinesByFeed text = true) : (lines text).length = text.count '\n' := by
  fun_induction endsLinesByFeed text with
  | case1 => rfl
  | case2 others ih =>
      rw [lines_pair, List.length_cons, ih hend.of_cons.of_cons h]
      simp
  | case3 char others hpair ih =>
      obtain ⟨hchar, hothers⟩ := Bool.and_eq_true_iff.mp h
      have hlength := ih hend.of_cons hothers
      rw [lines]
      · by_cases hfeed : char = '\n'
        · subst hfeed
          simpa [isLineTerminator] using hlength
        · have hterminator : isLineTerminator char = false := by simpa [hfeed] using hchar
          rw [if_neg (by simp [hterminator]),
            length_ontoFirstLine (lines_ne_nil (hend.ne_nil hfeed)), hlength,
            List.count_cons_of_ne hfeed]
      · exact hpair

/-! ## The line that is shown -/

def shownLine (text : List Char) : List Char := withoutTerminator ((lines text)[0]?.getD [])

theorem shownLine_cons {char : Char} (h : isLineTerminator char = false) (others : List Char) :
    shownLine (char :: others) = char :: shownLine others := by
  have hfeed : char ≠ '\n' := ne_of_isLineTerminator h rfl
  have hreturn : char ≠ '\r' := ne_of_isLineTerminator h rfl
  rw [shownLine, lines_cons hreturn, if_neg (by simp [h]), shownLine]
  cases lines others with
  | nil => exact withoutTerminator_cons hfeed hreturn []
  | cons line lines => exact withoutTerminator_cons hfeed hreturn line

theorem shownLine_of_isLineTerminator {char : Char} {others : List Char}
    (hpair : ∀ rest, char = '\r' → others = '\n' :: rest → False)
    (h : isLineTerminator char = true) :
    shownLine (char :: others) = if char = '\n' ∨ char = '\r' then [] else [char] := by
  rw [shownLine, lines, if_pos h]
  · by_cases hfeed : char = '\n'
    · subst hfeed
      rfl
    · by_cases hreturn : char = '\r'
      · subst hreturn
        rfl
      · rw [if_neg (by simp [hfeed, hreturn])]
        exact withoutTerminator_cons hfeed hreturn []
  · exact hpair

private theorem lineFeed_notMem_shownLine (text : List Char) : '\n' ∉ shownLine text := by
  fun_induction firstLine text with
  | case1 | case2 | case3 => exact List.not_mem_nil
  | case4 char others hfeed hpair ih =>
      cases hterminator : isLineTerminator char with
      | true =>
          rw [shownLine_of_isLineTerminator hpair hterminator]
          split_ifs <;> simp [Ne.symm hfeed]
      | false =>
          rw [shownLine_cons hterminator]
          simp [ih, Ne.symm hfeed]

def IsPlainLine (line : List Char) : Prop :=
  (∀ char ∈ line.dropLast, isLineTerminator char = false) ∧ line.getLast? ≠ some '\r'

section IsPlainLine

variable {char : Char} {line : List Char}

theorem isPlainLine_cons (h : isLineTerminator char = false) :
    IsPlainLine (char :: line) ↔ IsPlainLine line := by
  cases line with
  | nil =>
      have hreturn : char ≠ '\r' := ne_of_isLineTerminator h rfl
      simp [IsPlainLine, hreturn]
  | cons next line => simp [IsPlainLine, h]

private theorem isPlainLine_cons_of_isLineTerminator (h : isLineTerminator char = true) :
    IsPlainLine (char :: line) ↔ line = [] ∧ char ≠ '\r' := by
  cases line <;> simp [IsPlainLine, h]

end IsPlainLine

theorem shownLine_eq_firstLine_iff (text : List Char) :
    shownLine text = firstLine text ↔ IsPlainLine (firstLine text) := by
  fun_induction firstLine text with
  | case1 | case2 | case3 => exact iff_of_true rfl ⟨by simp, by simp⟩
  | case4 char others hfeed hpair ih =>
      cases hterminator : isLineTerminator char with
      | false => rw [shownLine_cons hterminator, isPlainLine_cons hterminator, List.cons.injEq,
          eq_self_iff_true, true_and, ih]
      | true =>
          rw [shownLine_of_isLineTerminator hpair hterminator,
            isPlainLine_cons_of_isLineTerminator hterminator]
          by_cases hreturn : char = '\r'
          · simp [hreturn]
          · rw [if_neg (not_or.mpr ⟨hfeed, hreturn⟩)]
            simp [hreturn]

private theorem eq_of_append_lineFeed_eq {first second rest others : List Char}
    (hfirst : '\n' ∉ first)
    (hsecond : '\n' ∉ second) (h : first ++ '\n' :: rest = second ++ '\n' :: others) :
    first = second := by
  have htake := congrArg (List.takeWhile (· ≠ '\n')) h
  rw [takeWhile_append_of_notMem hfirst, takeWhile_append_of_notMem hsecond] at htake
  simpa using htake

end Text

/-! ## Reports -/

namespace Diagnostic

def offset (diagnostic : Diagnostic) : Nat := diagnostic.span.start.offset.toNat

def lineStart (diagnostic : Diagnostic) : Nat :=
  Text.lastLineStart (diagnostic.source.toList.take diagnostic.offset)

def line (diagnostic : Diagnostic) : List Char :=
  Text.firstLine (diagnostic.source.toList.drop diagnostic.lineStart)

/-- The report shows the line that the diagnostic is about under the number of that line, with
carets from the character at its offset to the end of the line. -/
def ShowsLine (diagnostic : Diagnostic) (filename : String) : Prop :=
  let place := coordinates diagnostic.source diagnostic.offset
  let indent := diagnostic.offset - diagnostic.lineStart
  diagnostic.format filename =
    reportHead filename diagnostic.message (toString place.line) (toString place.column) ++
      reportExcerpt (toString place.line) diagnostic.line indent (diagnostic.line.length - indent)

end Diagnostic

private theorem eq_of_reportExcerpt_eq {number : String} {line other : List Char}
    {indent carets otherIndent otherCarets : Nat} (hline : '\n' ∉ line) (hother : '\n' ∉ other)
    (h : reportExcerpt number line indent carets =
      reportExcerpt number other otherIndent otherCarets) : line = other := by
  have hchars := congrArg String.toList h
  simp only [reportExcerpt, String.toList_append, List.append_assoc, List.append_cancel_left_eq,
    String.toList_ofList] at hchars
  exact Text.eq_of_append_lineFeed_eq hline hother hchars

namespace Diagnostic

/-- A source taken apart where a diagnostic stands: into the lines above its own, what comes before
it on that, and what it is about. -/
structure StandsAt (diagnostic : Diagnostic) (above start : List Char) (first : Char)
    (others : List Char) : Prop where
  source : diagnostic.source.toList = above ++ (start ++ first :: others)
  offset : diagnostic.offset = above.length + start.length
  lineStart : diagnostic.lineStart = above.length
  above : Text.EndsLine above
  start : '\n' ∉ start
  first : Text.isLineTerminator first = false
  position : diagnostic.position = coordinates diagnostic.source diagnostic.offset

section StandsAt

variable {diagnostic : Diagnostic} {above start others : List Char} {first : Char}
  (h : diagnostic.StandsAt above start first others)

include h

theorem StandsAt.take_lineStart : diagnostic.source.toList.take diagnostic.lineStart = above := by
  rw [h.lineStart, h.source, List.take_left]

theorem StandsAt.line_eq : diagnostic.line = Text.firstLine (start ++ first :: others) := by
  rw [line, h.lineStart, h.source, List.drop_left]

theorem StandsAt.indent_eq : diagnostic.offset - diagnostic.lineStart = start.length := by
  rw [h.offset, h.lineStart, Nat.add_sub_cancel_left]

theorem StandsAt.indent_lt : start.length < diagnostic.line.length := by
  rw [h.line_eq]
  exact Text.length_lt_firstLine h.start h.first others

theorem StandsAt.position_line : diagnostic.position.line = 1 + above.count '\n' := by
  have htake : diagnostic.source.toList.take diagnostic.offset = above ++ start := by
    rw [h.source, h.offset, ← List.append_assoc, ← List.length_append, List.take_left]
  simp only [h.position, coordinates, htake, List.count_append, List.count_eq_zero.mpr h.start,
    Nat.add_zero]

theorem StandsAt.position_column : diagnostic.position.column = start.length + 1 := by
  have hcolumn : diagnostic.position.column = diagnostic.offset - diagnostic.lineStart + 1 := by
    rw [h.position]
    rfl
  rw [hcolumn, h.offset, h.lineStart]
  omega

theorem StandsAt.sourceLine_eq (habove : Text.endsLinesByFeed above = true) :
    diagnostic.sourceLine = Text.shownLine (start ++ first :: others) := by
  have hlength := Text.length_lines_of_endsLinesByFeed h.above habove
  have hnumber : (diagnostic.position.line - 1).toNat = (Text.lines above).length := by
    rw [h.position_line, hlength]
    omega
  have hpositive : ¬ diagnostic.position.line < 1 := by
    rw [h.position_line]
    omega
  simp only [sourceLine, if_neg hpositive, hnumber, h.source, Text.lines_append h.above,
    List.getElem?_append_right (Nat.le_refl _), Nat.sub_self, Text.shownLine]

end StandsAt

end Diagnostic

private theorem exists_of_mem_diagnostics {stream : TokenStream} {diagnostic : Diagnostic}
    (h : diagnostic ∈ stream.diagnostics) :
    ∃ first others, diagnostic.source.toList.drop diagnostic.offset = first :: others ∧
      Text.isLineTerminator first = false ∧
      diagnostic.position = coordinates diagnostic.source diagnostic.offset := by
  obtain ⟨scanned, hscanned, hdiagnostic⟩ := List.mem_filterMap.mp h
  obtain ⟨fault, hfault, rfl⟩ := Option.map_eq_some_iff.mp hdiagnostic
  have htoken : scanned.token ∈ stream.allTokens := List.mem_map_of_mem hscanned
  have hopen := (TokenStream.fault_eq_some_iff hscanned fault).mp hfault
  obtain ⟨context, first, others, lexeme, hdrop, hform, hcontent⟩ :=
    exists_form_of_mem_allTokens htoken
  refine ⟨first, others, hdrop, ?_, start_of_mem_allTokens htoken⟩
  have hhead : scanned.token.text.toList.head? = some first := by
    rw [(Prod.mk.inj hcontent).1, String.toList_ofList, Lexeme.head?_text_of_form hform]
  cases fault <;>
  · obtain ⟨-, body, hbody, -⟩ := hopen
    rw [hbody, List.head?_cons, Option.some.injEq] at hhead
    exact hhead ▸ rfl

private theorem exists_standsAt {stream : TokenStream} {diagnostic : Diagnostic}
    (h : diagnostic ∈ stream.diagnostics) :
    ∃ above start first others, diagnostic.StandsAt above start first others := by
  obtain ⟨first, others, hdrop, hfirst, hposition⟩ := exists_of_mem_diagnostics h
  obtain ⟨above, start, htake, hlineStart, hstart, habove⟩ :=
    Text.exists_lastLineStart_eq (diagnostic.source.toList.take diagnostic.offset)
  have hsource : diagnostic.source.toList = above ++ (start ++ first :: others) := by
    rw [← List.append_assoc, ← htake, ← hdrop, List.take_append_drop]
  have hoffset : diagnostic.offset = above.length + start.length := by
    have hlt : diagnostic.offset < diagnostic.source.toList.length := by
      by_contra hge
      rw [List.drop_of_length_le (Nat.not_lt.mp hge)] at hdrop
      contradiction
    rw [← List.length_append, ← htake, List.length_take, Nat.min_eq_left hlt.le]
  exact ⟨above, start, first, others, hsource, hoffset, hlineStart, habove, hstart, hfirst,
    hposition⟩

/-- Below lines that end with line feeds only, a report shows its line just when that has no line
terminators of its own, a last character other than a carriage return apart. -/
theorem showsLine_iff {stream : TokenStream} {diagnostic : Diagnostic}
    (h : diagnostic ∈ stream.diagnostics)
    (habove : Text.endsLinesByFeed (diagnostic.source.toList.take diagnostic.lineStart) = true)
    (filename : String) :
    diagnostic.ShowsLine filename ↔ Text.IsPlainLine diagnostic.line := by
  obtain ⟨above, start, first, others, hstands⟩ := exists_standsAt h
  rw [hstands.take_lineStart] at habove
  have hshown := hstands.sourceLine_eq habove
  have hplain : diagnostic.sourceLine = diagnostic.line ↔ Text.IsPlainLine diagnostic.line := by
    rw [hshown, hstands.line_eq]
    exact Text.shownLine_eq_firstLine_iff _
  rw [← hplain, Diagnostic.ShowsLine, ← hstands.position, diagnostic.format_eq]
  constructor
  · intro hformat
    refine eq_of_reportExcerpt_eq ?_ ?_ (String.append_right_inj _ |>.mp hformat)
    · exact hshown ▸ Text.lineFeed_notMem_shownLine _
    · exact hstands.line_eq ▸ Text.lineFeed_notMem_firstLine _
  · intro hline
    have hlt := hstands.indent_lt
    have hindent : (diagnostic.position.column - 1).toNat =
        diagnostic.offset - diagnostic.lineStart := by
      rw [hstands.position_column, hstands.indent_eq]
      omega
    have hcarets : (max 1 ((diagnostic.line.length : Int) - diagnostic.position.column + 1)).toNat =
        diagnostic.line.length - (diagnostic.offset - diagnostic.lineStart) := by
      rw [hstands.position_column, hstands.indent_eq]
      omega
    rw [hline, hindent, hcarets]

theorem showsLine_iff_vertical_tab :
    let source := "a;\r\n b = \"x\x0b"
    let diagnostic : Diagnostic :=
      ⟨"unterminated string literal", ⟨⟨2, 6, 9⟩, ⟨2, 9, 12⟩⟩, source, "input.hlsl"⟩
    diagnostic ∈ (TokenStream.mk ⟨[]⟩ source "input.hlsl").diagnostics ∧
      Text.endsLinesByFeed (diagnostic.source.toList.take diagnostic.lineStart) = true ∧
      Text.IsPlainLine diagnostic.line ∧ diagnostic.ShowsLine "input.hlsl" := by
  intro source diagnostic
  have hmem : diagnostic ∈ (TokenStream.mk ⟨[]⟩ source "input.hlsl").diagnostics := by
    decide +kernel
  have habove :
      Text.endsLinesByFeed (diagnostic.source.toList.take diagnostic.lineStart) = true := by
    decide +kernel
  have hline : diagnostic.line = [' ', 'b', ' ', '=', ' ', '"', 'x', '\x0b'] := by
    decide +kernel
  have hplain : Text.IsPlainLine diagnostic.line := by
    rw [hline]
    exact ⟨by simp [Text.isLineTerminator], by simp⟩
  exact ⟨hmem, habove, hplain, (showsLine_iff hmem habove "input.hlsl").mpr hplain⟩

/-- Below a form feed another line is shown. -/
theorem not_showsLine_form_feed :
    let source := "a\x0cb\n/* c"
    let diagnostic : Diagnostic :=
      ⟨"unterminated block comment", ⟨⟨2, 1, 4⟩, ⟨2, 5, 8⟩⟩, source, "input.hlsl"⟩
    (TokenStream.mk ⟨[]⟩ source "input.hlsl").diagnostics = [diagnostic] ∧
      diagnostic.line = ['/', '*', ' ', 'c'] ∧ diagnostic.sourceLine = ['b'] ∧
      ¬ diagnostic.ShowsLine "input.hlsl" := by
  intro source diagnostic
  refine ⟨by decide +kernel, by decide +kernel, by decide +kernel, ?_⟩
  unfold Diagnostic.ShowsLine
  decide +kernel

end ShaderTokens
