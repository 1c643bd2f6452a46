import ShaderTokens.Proofs.LexemeForm

/-!
# What follows a lexeme

A lexeme that is no gap depends on what follows it only up to the next gap, so that gaps can be
exchanged for white space behind it.
-/

namespace ShaderTokens

/-! ## Texts that are alike -/

/-- The second text is the first with everything from some gap on exchanged for white space and
whatever follows that; where the first ends without a gap, so does the second. -/
def Alike (chars others : List Char) : Prop :=
  ∃ shared gap blank, chars = shared ++ gap ∧ others = shared ++ blank ∧
    (∀ char ∈ gap.head?, Lexeme.isSpace char = true ∨ char = '/') ∧
    (∀ char ∈ blank.head?, Lexeme.isSpace char = true) ∧ (gap = [] → blank = [])

namespace Alike

variable {chars others : List Char}

theorem nil : Alike [] [] := by
  refine ⟨[], [], [], rfl, rfl, ?_, ?_, fun _ => rfl⟩ <;> simp

theorem append (text : List Char) (h : Alike chars others) :
    Alike (text ++ chars) (text ++ others) := by
  obtain ⟨shared, gap, blank, rfl, rfl, hgap, hblank, hend⟩ := h
  exact ⟨text ++ shared, gap, blank, by simp, by simp, hgap, hblank, hend⟩

theorem eq_nil (h : Alike [] others) : others = [] := by
  obtain ⟨shared, gap, blank, hchars, rfl, -, -, hend⟩ := h
  obtain ⟨rfl, rfl⟩ := List.append_eq_nil_iff.mp hchars.symm
  rw [hend rfl, List.append_nil]

theorem mem_head? (h : Alike chars others) {char : Char} (hchar : char ∈ others.head?) :
    char ∈ chars.head? ∨ Lexeme.isSpace char = true := by
  obtain ⟨shared, gap, blank, rfl, rfl, -, hblank, -⟩ := h
  cases shared with
  | nil => exact .inr (hblank char hchar)
  | cons first shared => exact .inl hchar

theorem stopsAt (h : Alike chars others) {isMember : Char → Bool}
    (hspace : ∀ char, Lexeme.isSpace char = true → isMember char = false)
    (hstops : StopsAt isMember chars) : StopsAt isMember others := by
  intro char hchar
  rcases h.mem_head? hchar with hshared | hblank
  · exact hstops char hshared
  · exact hspace char hblank

end Alike

namespace Lexeme

theorem eq_of_isSpace {char : Char} (h : isSpace char = true) :
    char = ' ' ∨ char = '\t' ∨ char = '\r' ∨ char = '\n' ∨ char = '\x0c' ∨ char = '\x0b' := by
  simpa [isSpace, or_assoc] using h

theorem Number.isPart_of_isSpace {char : Char} (h : isSpace char = true) :
    isPart char = false := by
  rcases eq_of_isSpace h with rfl | rfl | rfl | rfl | rfl | rfl <;> rfl

private theorem isIdentifierPart_of_isSpace {char : Char} (h : isSpace char = true) :
    isIdentifierPart char = false := by
  rcases eq_of_isSpace h with rfl | rfl | rfl | rfl | rfl | rfl <;> rfl

private theorem number?_eq_of_alike {chars others : List Char} (h : Alike chars others)
    (text : List Char) : number? (text ++ others) = number? (text ++ chars) := by
  obtain ⟨shared, gap, blank, rfl, rfl, hgap, hblank, -⟩ := h
  have hgapStops : StopsAt Number.isPart gap := by
    intro char hchar
    rcases hgap char hchar with hspace | rfl
    · exact Number.isPart_of_isSpace hspace
    · rfl
  have hblankStops : StopsAt Number.isPart blank :=
    fun char hchar => Number.isPart_of_isSpace (hblank char hchar)
  rw [← List.append_assoc, ← List.append_assoc, number?_append hgapStops,
    number?_append hblankStops]

/-! ## Strings -/

theorem stringBody_append {body : List Char} (h : (stringBody body).isClosed = true)
    (rest : List Char) : stringBody ((stringBody body).text ++ rest) = stringBody body := by
  fun_induction stringBody body with
  | case1 => contradiction
  | case2 others => rfl
  | case3 char others ih => simp [Delimited.cons, stringBody, ih h]
  | case4 char others hquote hescape ih =>
      have hchar : char ≠ '\\' := by
        rintro rfl
        cases others with
        | nil => contradiction
        | cons char others => exact hescape char others rfl rfl
      simp [Delimited.cons, stringBody, hchar, ih h]

theorem text_stringBody_of_not_isClosed {body : List Char}
    (h : (stringBody body).isClosed = false) : (stringBody body).text = body := by
  fun_induction stringBody body with
  | case1 => rfl
  | case2 others => contradiction
  | case3 char others ih => simp [Delimited.cons, ih h]
  | case4 char others _ _ ih => simp [Delimited.cons, ih h]

/-! ## Exchanging what follows -/

private theorem stringBody_eq_of_alike {tail rest other : List Char} (h : Alike rest other)
    (htext : (stringBody (tail ++ rest)).text = tail) :
    stringBody (tail ++ other) = stringBody (tail ++ rest) := by
  cases hclosed : (stringBody (tail ++ rest)).isClosed with
  | true =>
      have happend := stringBody_append hclosed other
      rwa [htext] at happend
  | false =>
      have hwhole := text_stringBody_of_not_isClosed hclosed
      rw [htext, List.self_eq_append_right] at hwhole
      subst hwhole
      rw [h.eq_nil]

private theorem suffix_eq_of_alike {tail rest other : List Char} (h : Alike rest other)
    {isMember : Char → Bool} (hspace : ∀ char, isSpace char = true → isMember char = false)
    (htext : Number.suffix isMember (tail ++ rest) = tail) :
    Number.suffix isMember (tail ++ other) = tail := by
  cases tail with
  | nil =>
      rw [List.nil_append, Number.suffix_eq_nil_iff] at htext ⊢
      exact h.stopsAt hspace htext
  | cons char tail => exact htext

private theorem takeWhile_eq_of_alike {tail rest other : List Char} (h : Alike rest other)
    {isMember : Char → Bool} (hspace : ∀ char, isSpace char = true → isMember char = false)
    (htext : (tail ++ rest).takeWhile isMember = tail) :
    (tail ++ other).takeWhile isMember = tail := by
  have hmembers : ∀ char ∈ tail, isMember char = true := by
    intro char hchar
    rw [← htext] at hchar
    exact List.mem_takeWhile_imp hchar
  rw [List.takeWhile_append_of_pos hmembers, List.append_right_eq_self,
    takeWhile_eq_nil_iff_stopsAt] at htext ⊢
  exact h.stopsAt hspace htext

theorem IsBare.of_alike {first : Char} {rest other : List Char} (hbare : IsBare first rest)
    (h : Alike rest other) : IsBare first other := by
  refine { hbare with not_comment := ?_ }
  intro hslash char hchar
  rcases h.mem_head? hchar with hshared | hspace
  · exact hbare.not_comment hslash char hshared
  · rcases eq_of_isSpace hspace with rfl | rfl | rfl | rfl | rfl | rfl <;> decide

theorem read_eq_of_isBare_of_alike (lexicon : Lexicon) (context : LineContext) {first : Char}
    {tail rest other : List Char} (h : Alike rest other) (hbare : IsBare first (tail ++ rest)) :
    read lexicon context first (tail ++ other) = read lexicon context first (tail ++ rest) := by
  have hnumber : number? (first :: (tail ++ other)) = number? (first :: (tail ++ rest)) :=
    number?_eq_of_alike h (first :: tail)
  rw [read_of_isBare lexicon context hbare,
    read_of_isBare lexicon context (hbare.of_alike (h.append tail))]
  simp only [numberOrPunctuation, hnumber]

theorem read_eq_of_alike {lexicon : Lexicon} {context : LineContext} {first : Char}
    {tail rest other : List Char} {lexeme : Lexeme}
    (hform : Form lexicon context first (tail ++ rest) lexeme)
    (hgap : lexeme.category.isGap = false) (htext : lexeme.text = first :: tail)
    (h : Alike rest other) : read lexicon context first (tail ++ other) = lexeme := by
  have hread := read_eq_of_form hform
  generalize hothers : tail ++ rest = others at hform
  cases hform with
  | whitespace | lineComment | blockComment => contradiction
  | stringLiteral =>
      subst hothers
      have hbody := stringBody_eq_of_alike h (List.cons.inj htext).2
      simp only [read_stringLiteral, stringLiteral, hbody]
  | hash =>
      subst hothers
      have hhash : ∀ char, isSpace char = true → decide (char = '#') = false := by
        intro char hchar
        rcases eq_of_isSpace hchar with rfl | rfl | rfl | rfl | rfl | rfl <;> rfl
      rw [read_hash]
      cases context with
      | blank | code => rfl
      | directiveName | directive =>
          have hsuffix := (List.cons.inj htext).2
          have hother := suffix_eq_of_alike h hhash hsuffix
          simp only [hash, hsuffix, hother]
  | word hstart =>
      subst hothers
      have hword := (List.cons.inj htext).2
      have hother := takeWhile_eq_of_alike h (fun _ => isIdentifierPart_of_isSpace) hword
      simp only [read_of_isIdentifierStart lexicon context hstart, word, hword, hother]
  | number hbare | punctuation hbare =>
      subst hothers
      rw [read_eq_of_isBare_of_alike lexicon context h hbare, hread]

end Lexeme

end ShaderTokens
