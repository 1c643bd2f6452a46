import ShaderTokens.CommandLine.Report
import ShaderTokens.Proofs.JsonRoundTrip
import ShaderTokens.Proofs.PlainWords
import ShaderTokens.Proofs.SourceExcerpt
import ShaderTokens.Proofs.Tiling
import ShaderTokens.Text.StringLiteral

/-!
# Token lists as text

A token is listed on one line with two tabs, which keep its place, its category and its quoted text
apart.  The quoted text is a string literal that can be read back, so the source can be put together
again from a list of all its tokens.
-/

namespace ShaderTokens

namespace Text

/-! ## Reading quoted text -/

namespace StringLiteral

open Quoted

theorem readBody_escape {quote : Char} (hquote : quote ≠ '\\') {others meant rest : List Char}
    (h : readEscape others = some (meant, rest)) :
    readBody quote ('\\' :: others) = (readBody quote rest).map (meant ++ ·) := by
  rw [readBody, if_neg (Ne.symm hquote), if_pos rfl]
  split
  next hnone =>
    rw [hnone] at h
    contradiction
  next found =>
    rw [found] at h
    cases h
    rfl

theorem readBody_letter {quote : Char} (hquote : quote ≠ '\\') {letter meant : Char}
    {rest : List Char} (h : readEscape (letter :: rest) = some ([meant], rest)) :
    readBody quote (['\\', letter] ++ rest) = (readBody quote rest).map (meant :: ·) :=
  readBody_escape hquote h

theorem readBody_cons {quote char : Char} (hquote : char ≠ quote) (hbackslash : char ≠ '\\')
    (hfeed : char ≠ '\n') (hreturn : char ≠ '\r') (others : List Char) :
    readBody quote (char :: others) = (readBody quote others).map (char :: ·) := by
  rw [readBody, if_neg hquote, if_neg hbackslash, if_neg (by simp [hfeed, hreturn])]

theorem readHex_encode {width : Nat} (char : Char) (h : char.toNat < 16 ^ width)
    (rest : List Char) :
    readHex width (Hex.encode width char.toNat ++ rest) = some ([char], rest) := by
  have hlength := Hex.length_encode width char.toNat
  have hdigits : ∀ digit ∈ Hex.encode width char.toNat, Hex.isDigit digit = true := by
    intro digit hmem
    obtain ⟨value, hvalue, rfl⟩ := Hex.exists_digit_of_mem_encode hmem
    exact Hex.isDigit_digit hvalue
  have htake : (Hex.encode width char.toNat ++ rest).take width = Hex.encode width char.toNat :=
    List.take_left' hlength
  have hdrop : (Hex.encode width char.toNat ++ rest).drop width = rest := List.drop_left' hlength
  have hvalid : char.toNat.isValidChar := char.valid
  simp only [readHex, htake, hlength, List.all_eq_true.mpr hdigits, Hex.decode_encode h, codeEscape,
    hdrop, charOfCode?]
  simp [hvalid]

private theorem readEscape_escapeCode (char : Char) (rest : List Char) :
    ∃ digits, escapeCode char.toNat = '\\' :: digits ∧
      readEscape (digits ++ rest) = some ([char], rest) := by
  have hvalid : char.toNat < 0x110000 := by
    have := char.valid
    rcases this with h | h
    · exact Nat.lt_trans h (by decide)
    · exact h.2
  unfold escapeCode
  split_ifs with hshort hlong
  · exact ⟨_, rfl, readHex_encode char hshort rest⟩
  · exact ⟨_, rfl, readHex_encode char hlong rest⟩
  · exact ⟨_, rfl, readHex_encode char (Nat.lt_trans hvalid (by decide)) rest⟩

theorem readBody_escape_append {quote : Char} (hquote : quote = '\'' ∨ quote = '"') (char : Char)
    (rest : List Char) :
    readBody quote (escape quote char ++ rest) = (readBody quote rest).map (char :: ·) := by
  have hne : quote ≠ '\\' := by
    rintro rfl
    simp at hquote
  unfold escape
  split_ifs with hself hfeed hreturn htab hprintable
  · -- a quote or a backslash stands for itself behind a backslash
    apply readBody_letter hne
    rw [Bool.or_eq_true, decide_eq_true_eq, decide_eq_true_eq] at hself
    rcases hself with rfl | rfl
    · rcases hquote with rfl | rfl <;> rfl
    · rfl
  · rw [hfeed]
    exact readBody_letter hne rfl
  · rw [hreturn]
    exact readBody_letter hne rfl
  · rw [htab]
    exact readBody_letter hne rfl
  · rw [Bool.or_eq_true, decide_eq_true_eq, decide_eq_true_eq, not_or] at hself
    exact readBody_cons hself.1 hself.2 hfeed hreturn rest
  · obtain ⟨digits, hdigits, hread⟩ := readEscape_escapeCode char rest
    rw [hdigits]
    exact readBody_escape hne hread

private theorem readBody_flatMap_escape {quote : Char} (hquote : quote = '\'' ∨ quote = '"')
    (text : List Char) : readBody quote (text.flatMap (escape quote) ++ [quote]) = some text := by
  induction text with
  | nil =>
      rw [List.flatMap_nil, List.nil_append, readBody, if_pos rfl]
      rfl
  | cons char text ih =>
      rw [List.flatMap_cons, List.append_assoc, readBody_escape_append hquote, ih]
      rfl

@[simp] private theorem read_encode (text : List Char) : read (encode text) = some text := by
  have hquote : quoteFor text = '\'' ∨ quoteFor text = '"' := by
    unfold quoteFor
    split
    · exact .inr rfl
    · exact .inl rfl
  have hopens : (quoteFor text = '\'' || quoteFor text = '"') = true := by simpa using hquote
  rw [encode, List.cons_append, read, if_pos hopens]
  exact readBody_flatMap_escape hquote text

example : read "'\\x41\\102\\u0043\\q\\\"'".toList = some "ABC\\q\"".toList := by
  decide +kernel

end StringLiteral

/-! ## Characters that keep a line together -/

def KeepsField (char : Char) : Prop := char ≠ '\t' ∧ isLineTerminator char = false

theorem keepsField_of_isPrintable {char : Char} (h : JsonObject.IsPrintable char) :
    KeepsField char := by
  obtain ⟨hlow, hhigh⟩ := h
  constructor
  · rintro rfl
    contradiction
  · simp only [isLineTerminator, Bool.or_eq_false_iff, Bool.and_eq_false_iff, beq_eq_false_iff_ne,
      decide_eq_false_iff_not, ne_eq]
    omega

private theorem contains_of_isLineTerminator {char : Char} (h : isLineTerminator char = true)
    (hcode : 128 ≤ char.toNat) : Unicode.unprintableRanges.contains char.toNat = true := by
  have hcases : char.toNat = 0x85 ∨ char.toNat = 0x2028 ∨ char.toNat = 0x2029 := by
    simp only [isLineTerminator, Bool.or_eq_true, Bool.and_eq_true, decide_eq_true_eq,
      beq_iff_eq] at h
    omega
  rcases hcases with hchar | hchar | hchar
  · rw [hchar]
    decide +kernel
  · rw [hchar]
    decide +kernel
  · rw [hchar]
    decide +kernel

private theorem keepsField_of_unicode_isPrintable {char : Char}
    (h : Unicode.isPrintable char = true) :
    KeepsField char := by
  unfold Unicode.isPrintable at h
  split at h
  next hcode =>
    obtain ⟨hlow, hhigh⟩ := of_decide_eq_true h
    exact keepsField_of_isPrintable ⟨hlow, hhigh⟩
  next hcode =>
    constructor
    · rintro rfl
      exact hcode (by decide)
    · rw [Bool.eq_false_iff]
      intro hterminator
      rw [contains_of_isLineTerminator hterminator (Nat.le_of_not_lt hcode)] at h
      exact Bool.noConfusion h

namespace Quoted

private theorem keepsField_escapeCode (code : Nat) : ∀ char ∈ escapeCode code, KeepsField char := by
  have hdigit : ∀ digit < 16, JsonObject.IsPrintable (Hex.digit digit) := by decide
  have hmarked : ∀ {mark : Char} (width : Nat), JsonObject.IsPrintable mark →
      ∀ char ∈ '\\' :: mark :: Hex.encode width code, KeepsField char := by
    intro mark width hmark char hmem
    apply keepsField_of_isPrintable
    rcases List.mem_cons.mp hmem with rfl | hmem
    · decide
    rcases List.mem_cons.mp hmem with rfl | hmem
    · exact hmark
    obtain ⟨digit, hlt, rfl⟩ := Hex.exists_digit_of_mem_encode hmem
    exact hdigit digit hlt
  unfold escapeCode
  split_ifs
  · exact hmarked 2 (by decide)
  · exact hmarked 4 (by decide)
  · exact hmarked 8 (by decide)

private theorem keepsField_encode (text : List Char) : ∀ char ∈ encode text, KeepsField char := by
  have hplain : ∀ {char : Char}, JsonObject.IsPrintable char → KeepsField char :=
    keepsField_of_isPrintable
  have hquote : KeepsField (quoteFor text) := by
    unfold quoteFor
    split <;> exact hplain (by decide)
  have hescape : ∀ char, ∀ written ∈ escape (quoteFor text) char, KeepsField written := by
    intro char
    have hbackslash : KeepsField '\\' := hplain (by decide)
    unfold escape
    split_ifs with hself hfeed hreturn htab hprintable
    · rw [Bool.or_eq_true, decide_eq_true_eq, decide_eq_true_eq] at hself
      rcases hself with rfl | rfl
      · simp [hbackslash, hquote]
      · simp [hbackslash]
    · simp [hbackslash, hplain (show JsonObject.IsPrintable 'n' by decide)]
    · simp [hbackslash, hplain (show JsonObject.IsPrintable 'r' by decide)]
    · simp [hbackslash, hplain (show JsonObject.IsPrintable 't' by decide)]
    · simpa using keepsField_of_unicode_isPrintable hprintable
    · exact keepsField_escapeCode char.toNat
  rw [encode, List.cons_append, List.forall_mem_cons, List.forall_mem_append,
    List.forall_mem_flatMap]
  exact ⟨hquote, fun char _ => hescape char, by simpa using hquote⟩

end Quoted

/-! ## Lines -/

private theorem lines_append_lineFeed {line : List Char}
    (h : ∀ char ∈ line, isLineTerminator char = false)
    (rest : List Char) : lines (line ++ '\n' :: rest) = (line ++ ['\n']) :: lines rest := by
  induction line with
  | nil => rw [List.nil_append, lines_cons (by decide), if_pos (by decide), List.nil_append]
  | cons char line ih =>
      obtain ⟨hchar, hline⟩ := List.forall_mem_cons.mp h
      rw [List.cons_append, lines_cons (ne_of_isLineTerminator hchar rfl), ih hline, hchar,
        if_neg (by simp)]
      rfl

theorem dropTrailing_of_notMem {last : Char} {text : List Char} (h : last ∉ text) :
    dropTrailing last text = text := by
  rw [dropTrailing, List.dropWhile_eq_self_iff.mpr, List.reverse_reverse]
  intro hsome hlast
  have hmem := List.getElem_mem hsome
  rw [of_decide_eq_true hlast, List.mem_reverse] at hmem
  exact h hmem

private theorem withoutTerminator_append_lineFeed {line : List Char}
    (h : ∀ char ∈ line, isLineTerminator char = false) :
    withoutTerminator (line ++ ['\n']) = line := by
  have hfeed : '\n' ∉ line := fun hmem => absurd (h _ hmem) (by decide)
  have hreturn : '\r' ∉ line := fun hmem => absurd (h _ hmem) (by decide)
  have hdrop : dropTrailing '\n' (line ++ ['\n']) = dropTrailing '\n' line := by
    simp [dropTrailing]
  rw [withoutTerminator, hdrop, dropTrailing_of_notMem hfeed, dropTrailing_of_notMem hreturn]

end Text

/-! ## The line of a token -/

open Text

namespace Token

def listedPlace (token : Token) : String := toString token.line ++ ":" ++ toString token.column

/-- A listing of one token: a single line of three fields, the last of which is a string literal for
its text. -/
structure ListsPlainly (token : Token) : Prop where
  tabs : token.textLine.toList.count '\t' = 2
  oneLine : ∀ char ∈ token.textLine.toList, isLineTerminator char = false
  fields : between '\t' token.textLine.toList =
    [token.listedPlace.toList, token.category.name.toList, (quoted token.text).toList]
  reads : StringLiteral.read (quoted token.text).toList = some token.text.toList

private theorem keepsField_listedPlace (token : Token) :
    ∀ char ∈ token.listedPlace.toList, KeepsField char := by
  have hcolon : ∀ char ∈ (":" : String).toList, KeepsField char :=
    List.forall_mem_singleton.mpr (keepsField_of_isPrintable (by decide))
  have hnumber : ∀ value : Int, ∀ char ∈ (toString value).toList, KeepsField char :=
    fun value char hmem =>
      keepsField_of_isPrintable (JsonObject.isPrintable_toString value char hmem)
  rw [listedPlace, String.toList_append, String.toList_append, List.forall_mem_append,
    List.forall_mem_append]
  exact ⟨⟨hnumber token.line, hcolon⟩, hnumber token.column⟩

private theorem keepsField_name (category : Category) :
    ∀ char ∈ category.name.toList, KeepsField char := by
  have hprintable : (category.name.toList.all fun char => decide (JsonObject.IsPrintable char)) =
      true := by
    cases category <;> decide
  intro char hmem
  exact keepsField_of_isPrintable (of_decide_eq_true (List.all_eq_true.mp hprintable char hmem))

private theorem keepsField_quoted (text : String) : ∀ char ∈
    (quoted text).toList, KeepsField char := by
  rw [quoted, String.toList_ofList]
  exact Quoted.keepsField_encode text.toList

theorem toList_textLine (token : Token) :
    token.textLine.toList = token.listedPlace.toList ++
      '\t' :: (token.category.name.toList ++ '\t' :: (quoted token.text).toList) := by
  have htab : ("\t" : String).toList = ['\t'] := rfl
  simp [textLine, listedPlace, htab]

theorem listsPlainly (token : Token) : token.ListsPlainly := by
  have hplace := token.keepsField_listedPlace
  have hname := keepsField_name token.category
  have hquoted := keepsField_quoted token.text
  have htab : ∀ {field : List Char}, (∀ char ∈ field, KeepsField char) → '\t' ∉ field :=
    fun hfield hmem => (hfield _ hmem).1 rfl
  constructor
  · rw [toList_textLine, List.count_append, List.count_cons_self, List.count_append,
      List.count_cons_self, List.count_eq_zero.mpr (htab hplace),
      List.count_eq_zero.mpr (htab hname), List.count_eq_zero.mpr (htab hquoted)]
  · rw [toList_textLine, List.forall_mem_append, List.forall_mem_cons, List.forall_mem_append,
      List.forall_mem_cons]
    exact ⟨fun char hmem => (hplace char hmem).2, rfl, fun char hmem => (hname char hmem).2, rfl,
      fun char hmem => (hquoted char hmem).2⟩
  · rw [toList_textLine, between_append (htab hplace), between_append (htab hname),
      between_of_notMem (htab hquoted)]
  · rw [quoted, String.toList_ofList]
    exact StringLiteral.read_encode token.text.toList

end Token

/-! ## Lists of tokens -/

def listedText? (line : List Char) : Option (List Char) :=
  match between '\t' line with
  | [_, _, literal] => StringLiteral.read literal
  | _ => none

def listedTexts? (output : String) : Option (List (List Char)) :=
  ((lines output.toList).map withoutTerminator).mapM listedText?

structure IsTextTranscript (output : String) (tokens : List Token) : Prop where
  lines_eq : lines output.toList = tokens.map fun token => token.textLine.toList ++ ['\n']
  texts_eq : listedTexts? output = some (tokens.map fun token => token.text.toList)

private theorem listedText?_textLine (token : Token) :
    listedText? token.textLine.toList = some token.text.toList := by
  have hplain := token.listsPlainly
  rw [listedText?, hplain.fields]
  exact hplain.reads

private theorem lines_flatMap_textLine (tokens : List Token) :
    lines (tokens.flatMap fun token => token.textLine.toList ++ ['\n']) =
      tokens.map fun token => token.textLine.toList ++ ['\n'] := by
  induction tokens with
  | nil => rfl
  | cons token tokens ih =>
      rw [List.flatMap_cons, List.append_assoc, List.singleton_append,
        lines_append_lineFeed token.listsPlainly.oneLine, ih, List.map_cons]

private theorem mapM_listedText? (tokens : List Token) :
    (tokens.map fun token => token.textLine.toList).mapM listedText? =
      some (tokens.map fun token => token.text.toList) := by
  induction tokens with
  | nil => rfl
  | cons token tokens ih =>
      rw [List.map_cons, List.mapM_cons, listedText?_textLine, ih]
      rfl

namespace CommandLine.Settings

private theorem isTextTranscript_tokenLines {settings : Settings} (hjson : settings.json = false)
    (tokens : List Token) : IsTextTranscript (settings.tokenLines tokens) tokens := by
  have hwritten : (settings.tokenLines tokens).toList =
      tokens.flatMap fun token => token.textLine.toList ++ ['\n'] := by
    rw [tokenLines, String.toList_join, List.flatMap_map]
    apply List.flatMap_congr
    intro token _
    rw [Token.listing, hjson, if_neg (by simp), String.toList_append]
    rfl
  have hlines : lines (settings.tokenLines tokens).toList =
      tokens.map fun token => token.textLine.toList ++ ['\n'] := by
    rw [hwritten, lines_flatMap_textLine]
  have hbare : (lines (settings.tokenLines tokens).toList).map withoutTerminator =
      tokens.map fun token => token.textLine.toList := by
    rw [hlines, List.map_map]
    apply List.map_congr_left
    intro token _
    rw [Function.comp_apply, withoutTerminator_append_lineFeed token.listsPlainly.oneLine]
  constructor
  · exact hlines
  · rw [listedTexts?, hbare, mapM_listedText?]

/-- A token is listed on one line from which its text can be read back, and a list of all tokens of
a source gives back the source. -/
theorem isTextTranscript_report :
    (∀ token : Token, token.ListsPlainly) ∧
      ∀ {settings : Settings} {lexicon : Lexicon},
        Lexicon.ofOptions settings.options = .ok lexicon → settings.json = false →
        settings.whitespace = true → settings.classified = [] → ∀ source filename : String,
          ∃ outcome, settings.report source filename = .ok outcome ∧
            IsTextTranscript outcome.output (TokenStream.mk lexicon source filename).allTokens ∧
            ∃ texts, listedTexts? outcome.output = some texts ∧
              texts.flatten = source.toList := by
  refine ⟨Token.listsPlainly, ?_⟩
  intro settings lexicon hlexicon hjson hwhitespace hclassified source filename
  let stream : TokenStream := ⟨lexicon, source, filename⟩
  have hall : stream.tokens settings.whitespace = stream.allTokens := by
    simp [TokenStream.tokens, hwhitespace]
  have houtput : (settings.reportWith lexicon source filename).output =
      settings.tokenLines stream.allTokens := by
    rw [reportWith, hclassified, ← hall]
    rfl
  have htranscript := isTextTranscript_tokenLines hjson stream.allTokens
  rw [← houtput] at htranscript
  refine ⟨_, report_eq_ok hlexicon source filename, htranscript, _, htranscript.texts_eq, ?_⟩
  have hcovers := congrArg String.toList (tiles_allTokens stream).covers
  rw [String.toList_join, List.flatMap_map] at hcovers
  exact hcovers

theorem isTextTranscript_report_quotes :
    ∃ outcome, report { whitespace := true } "\"it's \\\"\u200b\"\n" "sky.hlsl" = .ok outcome ∧
      ∃ texts, listedTexts? outcome.output = some texts ∧
        texts.flatten = "\"it's \\\"\u200b\"\n".toList := by
  let settings : Settings := { whitespace := true }
  have hlexicon : Lexicon.ofOptions settings.options = .ok .standard := Lexicon.ofOptions_empty
  obtain ⟨outcome, hreport, -, htexts⟩ :=
    isTextTranscript_report.2 hlexicon rfl rfl rfl "\"it's \\\"\u200b\"\n" "sky.hlsl"
  exact ⟨outcome, hreport, htexts⟩

end CommandLine.Settings

end ShaderTokens
