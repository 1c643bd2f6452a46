import ShaderTokens.Proofs.RelativePlaces
import ShaderTokens.Proofs.StretchOrder

/-!
# Coloured characters

The semantic tokens of a source colour the characters of its tokens, each once, except white space,
punctuation, line feeds and the carriage returns at the ends of lines.
-/

namespace ShaderTokens.Editor

open Text

/-! ## The stretches of one text -/

/-- The first character of a text is shown: it is no line feed, and it or a character behind it on
its line is no carriage return. -/
def isShown (text : List Char) : Bool := (text.takeWhile (· ≠ '\n')).any (· ≠ '\r')

section Pieces

variable (semanticType : SemanticType) (modifiers : Nat)

def stretchOfLine (position : Position) (line : List Char) : List Stretch :=
  let visible := dropTrailing '\r' line
  if visible.isEmpty then []
  else
    [⟨position.line - 1, position.column - 1, visible.length, semanticType.index, modifiers⟩]

def stretchesAt (position : Position) (lines : List (List Char)) : List Stretch :=
  stretchesFrom semanticType modifiers (position.line - 1) (position.column - 1) lines

theorem stretchesAt_cons (position : Position) {line : List Char} (hline : '\n' ∉ line)
    (lines : List (List Char)) :
    stretchesAt semanticType modifiers position (line :: lines) =
      stretchOfLine semanticType modifiers position line ++
        stretchesAt semanticType modifiers (position.after (line ++ ['\n'])) lines := by
  have hnextLine : (position.after (line ++ ['\n'])).line - 1 = position.line - 1 + 1 := by
    have hcount := position.line_after (line ++ ['\n'])
    rw [List.count_append, List.count_eq_zero_of_not_mem hline, List.count_singleton_self]
      at hcount
    omega
  have hnextColumn : (position.after (line ++ ['\n'])).column - 1 = 0 := by
    simp [Position.advance]
  rw [stretchesAt, stretchesAt, hnextLine, hnextColumn, stretchesFrom, stretchOfLine]
  by_cases hvisible : (dropTrailing '\r' line).isEmpty <;> simp [hvisible]

variable {semanticType modifiers}

private theorem mem_stretchOfLine {position : Position} {line : List Char} {stretch : Stretch} :
    stretch ∈ stretchOfLine semanticType modifiers position line ↔
      dropTrailing '\r' line ≠ [] ∧
        stretch = ⟨position.line - 1, position.column - 1, (dropTrailing '\r' line).length,
          semanticType.index, modifiers⟩ := by
  rw [stretchOfLine]
  by_cases hvisible : dropTrailing '\r' line = [] <;> simp [hvisible]

theorem fits_stretchOfLine (position : Position) {line : List Char} (hline : '\n' ∉ line) :
    Fits position.place (position.after line).place
      (stretchOfLine semanticType modifiers position line) := by
  by_cases hvisible : dropTrailing '\r' line = []
  · rw [stretchOfLine, hvisible]
    exact .done (position.place_le_place_after line)
  · have hlength := (dropTrailing_isPrefix '\r' line).length_le
    have hcount := position.line_after line
    rw [List.count_eq_zero_of_not_mem hline] at hcount
    rw [stretchOfLine, if_neg (by simpa using hvisible)]
    refine .next le_rfl (.done ?_)
    rw [Stretch.past, Position.place, Prod.Lex.toLex_le_toLex, hcount,
      position.column_after_of_notMem hline]
    right
    constructor <;> dsimp only <;> omega

theorem fits_stretchesAt (position : Position) {lines : List (List Char)}
    (hlines : ∀ line ∈ lines, '\n' ∉ line) :
    Fits position.place (position.after (['\n'].intercalate lines)).place
      (stretchesAt semanticType modifiers position lines) := by
  induction lines generalizing position with
  | nil => exact .done le_rfl
  | cons line lines ih =>
      obtain ⟨hline, hothers⟩ := List.forall_mem_cons.mp hlines
      have hfirst : Fits _ _ (stretchOfLine semanticType modifiers position line) :=
        fits_stretchOfLine position hline
      rw [stretchesAt_cons semanticType modifiers position hline]
      by_cases hlast : lines = []
      · subst hlast
        simpa [stretchesAt, stretchesFrom] using hfirst
      · have hrest := ih (position.after (line ++ ['\n'])) hothers
        rw [← Position.after_append, ← intercalate_cons_of_ne_nil line hlast] at hrest
        refine hfirst.append (hrest.of_le ?_)
        rw [Position.after_append]
        exact Position.place_le_place_after _ _

private theorem coloursAt_stretchOfLine (position : Position) {before after : List Char}
    (hline : '\n' ∉ before ++ after) :
    coloursAt ((position.after before).line - 1) ((position.after before).column - 1)
        (stretchOfLine semanticType modifiers position (before ++ after)) =
      if after.any (· ≠ '\r') then [(semanticType.index, modifiers)] else [] := by
  have hbefore : '\n' ∉ before := fun hfeed => hline (List.mem_append_left _ hfeed)
  have hcount := position.line_after before
  rw [List.count_eq_zero_of_not_mem hbefore] at hcount
  rw [position.column_after_of_notMem hbefore, hcount]
  simp only [← length_lt_dropTrailing_iff '\r' before after]
  by_cases hvisible : dropTrailing '\r' (before ++ after) = []
  · simp [stretchOfLine, coloursAt, hvisible]
  · rw [stretchOfLine, if_neg (by simpa using hvisible), coloursAt_singleton]
    refine if_congr ?_ rfl rfl
    simp only [Stretch.Covers]
    omega

private theorem coloursAt_stretchesAt (position : Position) {lines : List (List Char)}
    (hlines : ∀ line ∈ lines, '\n' ∉ line) {before after : List Char} {char : Char}
    (htext : ['\n'].intercalate lines = before ++ char :: after) :
    coloursAt ((position.after before).line - 1) ((position.after before).column - 1)
        (stretchesAt semanticType modifiers position lines) =
      if isShown (char :: after) then [(semanticType.index, modifiers)] else [] := by
  induction lines generalizing position before with
  | nil => simp at htext
  | cons line lines ih =>
      obtain ⟨hline, hothers⟩ := List.forall_mem_cons.mp hlines
      rw [stretchesAt_cons semanticType modifiers position hline, coloursAt_append]
      -- the character is on this line, or behind it and the line feed
      rcases eq_append_of_intercalate_cons hline htext with rfl | ⟨behind, rfl, hbehind⟩
      · have hlater : (position.after before).place <
            (position.after (before ++ (char :: after).takeWhile (· ≠ '\n') ++ ['\n'])).place := by
          rw [List.append_assoc, Position.after_append]
          exact Position.place_lt_place_after _ (by simp)
        rw [coloursAt_stretchOfLine position hline,
          (fits_stretchesAt _ hothers).coloursAt_of_lt hlater, List.append_nil]
        rfl
      · have hearlier : (position.after line).place ≤
            (position.after (line ++ ['\n'] ++ behind)).place := by
          rw [List.append_assoc, Position.after_append]
          exact Position.place_le_place_after _ _
        rw [(fits_stretchOfLine position hline).coloursAt_of_le hearlier, List.nil_append,
          Position.after_append]
        exact ih _ hothers hbehind

private theorem isPartOf_of_mem_stretchesAt {position : Position} {lines : List (List Char)}
    (hlines : ∀ line ∈ lines, '\n' ∉ line) {stretch : Stretch}
    (h : stretch ∈ stretchesAt semanticType modifiers position lines) :
    stretch.IsPartOf position (['\n'].intercalate lines) := by
  induction lines generalizing position with
  | nil => contradiction
  | cons line lines ih =>
      obtain ⟨hline, hothers⟩ := List.forall_mem_cons.mp hlines
      rw [stretchesAt_cons semanticType modifiers position hline] at h
      rcases List.mem_append.mp h with h | h
      · obtain ⟨hvisible, rfl⟩ := mem_stretchOfLine.mp h
        have hfront := dropTrailing_isPrefix '\r' line
        obtain ⟨after, hafter⟩ := hfront.trans (isPrefix_intercalate_cons line lines)
        exact ⟨[], _, after, hafter.symm, fun hfeed => hline (hfront.subset hfeed), hvisible, rfl,
          rfl⟩
      · have hne : lines ≠ [] := by
          rintro rfl
          contradiction
        rw [intercalate_cons_of_ne_nil line hne]
        simpa using (ih hothers h).append []

end Pieces

/-! ## The stretches of a source -/

theorem stretches_scanned (position : Position) (lexeme : Lexeme) :
    stretches (Scanner.scanned position lexeme).token =
      match SemanticType.ofCategory? lexeme.category with
      | none => []
      | some semanticType =>
        stretchesAt semanticType (if lexeme.category.isDeprecated then 1 else 0) position
          (between '\n' lexeme.text) := by
  rw [stretches, Scanner.scanned, String.toList_ofList]
  rfl

def stretchesOf (start : Position) (lexemes : List Lexeme) : List Stretch :=
  (placed start lexemes).flatMap fun scanned => stretches scanned.token

theorem stretchesOf_append (start : Position) (first second : List Lexeme) :
    stretchesOf start (first ++ second) =
      stretchesOf start first ++ stretchesOf (start.after (textOf first)) second := by
  rw [stretchesOf, placed_append, List.flatMap_append, stretchesOf, stretchesOf]

private theorem flatMap_stretches_allTokens (stream : TokenStream) :
    stream.allTokens.flatMap stretches = stretchesOf .origin stream.lexemes := by
  rw [TokenStream.allTokens, stream.scan_eq_placed, List.flatMap_map]
  rfl

private theorem fits_stretches (position : Position) (lexeme : Lexeme) :
    Fits position.place (position.after lexeme.text).place
      (stretches (Scanner.scanned position lexeme).token) := by
  rw [stretches_scanned]
  cases SemanticType.ofCategory? lexeme.category with
  | none => exact .done (position.place_le_place_after _)
  | some semanticType =>
      have hfits : Fits _ _ (stretchesAt semanticType
          (if lexeme.category.isDeprecated then 1 else 0) position (between '\n' lexeme.text)) :=
        fits_stretchesAt position fun _ => separator_not_mem_of_mem_between
      rwa [intercalate_between] at hfits

theorem fits_stretchesOf (start : Position) (lexemes : List Lexeme) :
    Fits start.place (start.after (textOf lexemes)).place (stretchesOf start lexemes) := by
  induction lexemes generalizing start with
  | nil => exact .done le_rfl
  | cons lexeme lexemes ih =>
      have hothers := ih (start.after lexeme.text)
      rw [← Position.after_append, ← textOf_cons] at hothers
      exact (fits_stretches start lexeme).append hothers

private theorem coloursAt_stretchesOf (start : Position) {earlier later : List Lexeme}
    {lexeme : Lexeme}
    {before after : List Char} {char : Char} (htext : lexeme.text = before ++ char :: after) :
    coloursAt ((start.after (textOf earlier ++ before)).line - 1)
        ((start.after (textOf earlier ++ before)).column - 1)
        (stretchesOf start (earlier ++ lexeme :: later)) =
      match SemanticType.ofCategory? lexeme.category with
      | none => []
      | some semanticType =>
        if isShown (char :: after) then
          [(semanticType.index, if lexeme.category.isDeprecated then 1 else 0)]
        else [] := by
  -- the stretches of the other lexemes end at or before the character, or begin behind it
  have hearlier : (start.after (textOf earlier)).place ≤
      (start.after (textOf earlier ++ before)).place := by
    rw [Position.after_append]
    exact Position.place_le_place_after _ _
  have hlater : (start.after (textOf earlier ++ before)).place <
      ((start.after (textOf earlier)).after lexeme.text).place := by
    rw [htext, ← Position.after_append, ← List.append_assoc,
      Position.after_append start (textOf earlier ++ before)]
    exact Position.place_lt_place_after _ (List.cons_ne_nil _ _)
  have hcons : stretchesOf (start.after (textOf earlier)) (lexeme :: later) =
      stretches (Scanner.scanned (start.after (textOf earlier)) lexeme).token ++
        stretchesOf ((start.after (textOf earlier)).after lexeme.text) later := rfl
  rw [stretchesOf_append, hcons, coloursAt_append, coloursAt_append,
    (fits_stretchesOf start earlier).coloursAt_of_le hearlier,
    (fits_stretchesOf _ later).coloursAt_of_lt hlater, List.nil_append, List.append_nil,
    stretches_scanned]
  cases SemanticType.ofCategory? lexeme.category with
  | none => rfl
  | some semanticType =>
      dsimp only
      rw [Position.after_append]
      exact coloursAt_stretchesAt _ (fun line => separator_not_mem_of_mem_between)
        ((intercalate_between '\n' _).trans htext)

private theorem isPartOf_of_mem_stretches {position : Position} {lexeme : Lexeme}
    {stretch : Stretch} (h : stretch ∈ stretches (Scanner.scanned position lexeme).token) :
    stretch.IsPartOf position lexeme.text := by
  rw [stretches_scanned] at h
  cases hcategory : SemanticType.ofCategory? lexeme.category with
  | none =>
      rw [hcategory] at h
      contradiction
  | some semanticType =>
      rw [hcategory] at h
      have hpart := isPartOf_of_mem_stretchesAt (fun _ => separator_not_mem_of_mem_between) h
      rwa [intercalate_between] at hpart

private theorem isPartOf_of_mem_stretchesOf {start : Position} {lexemes : List Lexeme}
    {stretch : Stretch}
    (h : stretch ∈ stretchesOf start lexemes) : stretch.IsPartOf start (textOf lexemes) := by
  obtain ⟨scanned, hscanned, hstretch⟩ := List.mem_flatMap.mp h
  obtain ⟨earlier, lexeme, later, rfl, rfl⟩ := mem_placed hscanned
  rw [textOf_append, textOf_cons]
  exact (isPartOf_of_mem_stretches hstretch).append (textOf later)

/-! ## Characters of a source -/

def Stretch.IsOnLineOf (stretch : Stretch) (text : List Char) : Prop :=
  ∃ line, 0 ≤ stretch.line ∧ (between '\n' text)[stretch.line.toNat]? = some line ∧
    0 ≤ stretch.character ∧ stretch.character + stretch.length ≤ line.length

theorem Stretch.IsPartOf.isOnLineOf {stretch : Stretch} {text : List Char}
    (h : stretch.IsPartOf .origin text) : stretch.IsOnLineOf text := by
  obtain ⟨before, visible, after, rfl, hfeed, -, hfirst, hlength⟩ := h
  rw [Position.place_after_origin] at hfirst
  have hline : stretch.line = before.count '\n' := congrArg (fun place => (ofLex place).1) hfirst
  have hcharacter : stretch.character = (before.rtakeWhile (· ≠ '\n')).length :=
    congrArg (fun place => (ofLex place).2) hfirst
  have hnumber : stretch.line.toNat = before.count '\n' := by omega
  refine ⟨_, by omega, hnumber ▸ getElem?_between '\n' before _, by omega, ?_⟩
  rw [takeWhile_append_of_notMem hfeed, List.length_append, List.length_append]
  omega

def Holds (token : Token) (index : Nat) : Prop :=
  token.startOffset ≤ index ∧ index < token.endOffset

def textFrom (token : Token) (index : Nat) : List Char :=
  token.text.toList.drop (index - token.startOffset).toNat

section Character

variable {earlier : List Lexeme} {lexeme : Lexeme} {index : Nat}

theorem holds_scanned :
    Holds (Scanner.scanned (.after .origin (textOf earlier)) lexeme).token index ↔
      (textOf earlier).length ≤ index ∧
        index < (textOf earlier).length + lexeme.text.length := by
  simp only [Holds, Scanner.scanned, Position.offset_after, Position.origin]
  omega

private theorem textFrom_scanned (before : List Char) :
    textFrom (Scanner.scanned (.after .origin (textOf earlier)) lexeme).token
        (textOf earlier ++ before).length =
      lexeme.text.drop before.length := by
  have hcount : (((textOf earlier ++ before).length : ℤ) -
      (Position.origin.after (textOf earlier)).offset).toNat = before.length := by
    rw [Position.offset_after_origin, List.length_append]
    omega
  rw [textFrom, Scanner.scanned, String.toList_ofList, hcount]

private theorem exists_of_holds
    (h : Holds (Scanner.scanned (.after .origin (textOf earlier)) lexeme).token index) :
    ∃ before char after, lexeme.text = before ++ char :: after ∧
      index = (textOf earlier ++ before).length := by
  obtain ⟨hstart, hstop⟩ := holds_scanned.mp h
  obtain ⟨count, rfl⟩ := Nat.exists_eq_add_of_le hstart
  have hcount : count < lexeme.text.length := by omega
  refine ⟨lexeme.text.take count, lexeme.text[count], lexeme.text.drop (count + 1), ?_, ?_⟩
  · rw [List.getElem_cons_drop, List.take_append_drop]
  · rw [List.length_append, List.length_take_of_le hcount.le]

private theorem exists_of_lt_length_textOf {lexemes : List Lexeme}
    (h : index < (textOf lexemes).length) :
    ∃ earlier lexeme later, lexemes = earlier ++ lexeme :: later ∧
      (textOf earlier).length ≤ index ∧ index < (textOf earlier).length + lexeme.text.length := by
  induction lexemes generalizing index with
  | nil => contradiction
  | cons first lexemes ih =>
      rw [textOf_cons, List.length_append] at h
      by_cases hfirst : index < first.text.length
      · exact ⟨[], first, lexemes, rfl, Nat.zero_le _, by simpa using hfirst⟩
      · obtain ⟨count, rfl⟩ := Nat.exists_eq_add_of_le (Nat.le_of_not_lt hfirst)
        obtain ⟨earlier, lexeme, later, rfl, hstart, hstop⟩ := ih (Nat.lt_of_add_lt_add_left h)
        refine ⟨first :: earlier, lexeme, later, rfl, ?_, ?_⟩
        · simpa using hstart
        · simp only [textOf_cons, List.length_append]
          omega

end Character

private theorem exists_holds (stream : TokenStream) {index : Nat}
    (h : index < stream.source.length) :
    ∃ token ∈ stream.allTokens, Holds token index := by
  rw [← String.length_toList, ← stream.textOf_lexemes] at h
  obtain ⟨earlier, lexeme, later, hlexemes, hholds⟩ := exists_of_lt_length_textOf h
  refine ⟨(Scanner.scanned (.after .origin (textOf earlier)) lexeme).token, ?_,
    holds_scanned.mpr hholds⟩
  rw [TokenStream.allTokens, stream.scan_eq_placed, hlexemes, placed_append, placed]
  simp

theorem coloursAt_of_holds {stream : TokenStream} {token : Token}
    (htoken : token ∈ stream.allTokens) {index : Nat} (hholds : Holds token index) :
    coloursAt (lineOf stream.source.toList index) (columnOf stream.source.toList index)
        (stretchesOf .origin stream.lexemes) =
      match SemanticType.ofCategory? token.category with
      | none => []
      | some semanticType =>
        if isShown (textFrom token index) then
          [(semanticType.index, if token.category.isDeprecated then 1 else 0)]
        else [] := by
  obtain ⟨earlier, lexeme, later, hlexemes, rfl⟩ := mem_allTokens htoken
  obtain ⟨before, char, after, htext, rfl⟩ := exists_of_holds hholds
  have hsource : stream.source.toList =
      textOf earlier ++ before ++ (char :: after ++ textOf later) := by
    rw [← stream.textOf_lexemes, hlexemes, textOf_append, textOf_cons, htext]
    simp
  have htake : stream.source.toList.take (textOf earlier ++ before).length =
      textOf earlier ++ before := by
    rw [hsource, List.take_left]
  have hfrom : lexeme.text.drop before.length = char :: after := by
    rw [htext, List.drop_left]
  obtain ⟨hline, hcolumn⟩ := Prod.mk.inj
    (toLex.injective (Position.place_after_origin (textOf earlier ++ before)))
  rw [lineOf, columnOf, htake, ← hline, ← hcolumn, textFrom_scanned, hfrom, hlexemes]
  exact coloursAt_stretchesOf .origin htext

/-! ## What an encoding paints -/

/-- The stretches of an encoding lie on lines of the source, follow each other without overlap and
cover exactly the characters to be coloured, each with the type and modifiers of its token. -/
structure Paints (source : String) (tokens : List Token) (relatives : List RelativeStretch) :
    Prop where
  lineDelta_nonneg : ∀ relative ∈ relatives, 0 ≤ relative.lineDelta
  length_pos : ∀ relative ∈ relatives, 0 < relative.length
  ordered : (RelativeStretch.resolve 0 0 relatives).Pairwise Stretch.Precedes
  onLine : ∀ stretch ∈ RelativeStretch.resolve 0 0 relatives, stretch.IsOnLineOf source.toList
  held : ∀ index < source.length, ∃ token ∈ tokens, Holds token index
  coloured : ∀ token ∈ tokens, ∀ index, Holds token index →
    token.category ≠ .whitespace → token.category ≠ .punctuation →
    isShown (textFrom token index) →
    ∃ semanticType, SemanticType.ofCategory? token.category = some semanticType ∧
      coloursAt (lineOf source.toList index) (columnOf source.toList index)
        (RelativeStretch.resolve 0 0 relatives) =
          [(semanticType.index, if token.category.isDeprecated then 1 else 0)]
  plain : ∀ token ∈ tokens, ∀ index, Holds token index →
    (token.category = .whitespace ∨ token.category = .punctuation ∨
      ¬ isShown (textFrom token index)) →
    coloursAt (lineOf source.toList index) (columnOf source.toList index)
      (RelativeStretch.resolve 0 0 relatives) = []

/-- Every encoding of a source can be read and paints the source. -/
theorem paints_encodeTokens (stream : TokenStream) :
    ∃ relatives, RelativeStretch.read? (encodeTokens stream.allTokens) = some relatives ∧
      Paints stream.source stream.allTokens relatives := by
  have hfits := fits_stretchesOf .origin stream.lexemes
  have hpart : ∀ stretch ∈ stretchesOf .origin stream.lexemes,
      stretch.IsPartOf .origin stream.source.toList := fun stretch hstretch =>
    stream.textOf_lexemes ▸ isPartOf_of_mem_stretchesOf hstretch
  refine ⟨relativeStretches 0 0 (stretchesOf .origin stream.lexemes), ?_, ?_⟩
  · rw [encodeTokens, flatMap_stretches_allTokens, read?_encodeStretches]
  · have hresolve := resolve_relativeStretches 0 0 (stretchesOf .origin stream.lexemes)
    constructor
    case lineDelta_nonneg =>
      refine lineDelta_nonneg 0 (fun stretch hstretch => ?_) ?_
      · obtain ⟨line, hline, -⟩ := (hpart stretch hstretch).isOnLineOf
        exact hline
      · refine hfits.pairwise_precedes.imp fun hprecedes => ?_
        exact hprecedes.elim le_of_lt fun hsame => hsame.1.le
    case length_pos =>
      intro relative hrelative
      have hlength := List.mem_map_of_mem (f := RelativeStretch.length) hrelative
      rw [map_length_relativeStretches] at hlength
      obtain ⟨stretch, hstretch, heq⟩ := List.mem_map.mp hlength
      obtain ⟨-, visible, -, -, -, hvisible, -, hvisibleLength⟩ := hpart stretch hstretch
      rw [← heq, hvisibleLength]
      exact List.length_pos_iff.mpr hvisible
    case ordered =>
      rw [hresolve]
      exact hfits.pairwise_precedes
    case onLine =>
      rw [hresolve]
      exact fun stretch hstretch => (hpart stretch hstretch).isOnLineOf
    case held => exact fun index hindex => exists_holds stream hindex
    case coloured =>
      intro token htoken index hholds hspace hpunctuation hshown
      have hcoloured := mt (SemanticType.ofCategory?_eq_none_iff token.category).mp
        (not_or.mpr ⟨hspace, hpunctuation⟩)
      obtain ⟨semanticType, htype⟩ := Option.ne_none_iff_exists'.mp hcoloured
      refine ⟨semanticType, htype, ?_⟩
      rw [hresolve, coloursAt_of_holds htoken hholds, htype]
      exact if_pos hshown
    case plain =>
      intro token htoken index hholds hplain
      rw [hresolve, coloursAt_of_holds htoken hholds]
      cases htype : SemanticType.ofCategory? token.category with
      | none => rfl
      | some semanticType =>
          have hcoloured :=
            mt (SemanticType.ofCategory?_eq_none_iff token.category).mpr (by simp [htype])
          exact if_neg ((or_assoc.mpr hplain).resolve_left hcoloured)

example :
    encodeTokens (TokenStream.mk ⟨[]⟩ "/* a\r\n */ b" "sky.hlsl").allTokens =
      [0, 0, 4, 7, 0, 1, 0, 3, 7, 0, 0, 4, 1, 4, 0] := by
  decide +kernel

end ShaderTokens.Editor
