import ShaderTokens.Proofs.LexemeForm
import ShaderTokens.TokenStream

/-!
# Sources as lists of lexemes

Which lexemes a source holds does not depend on where they stand.  The scanner is split into the
list of lexemes of a text and the tokens that they make from a position on, so that texts and
categories can be followed without positions and positions without the forms of lexemes.
-/

namespace ShaderTokens

/-! ## The lexemes of a text -/

def textOf (lexemes : List Lexeme) : List Char := (lexemes.map Lexeme.text).flatten

@[simp] theorem textOf_nil : textOf [] = [] := rfl

@[simp] theorem textOf_cons (lexeme : Lexeme) (lexemes : List Lexeme) :
    textOf (lexeme :: lexemes) = lexeme.text ++ textOf lexemes := rfl

@[simp] theorem textOf_append (first second : List Lexeme) :
    textOf (first ++ second) = textOf first ++ textOf second := by
  simp [textOf]

def lexemes (lexicon : Lexicon) (context : LineContext) : List Char → List Lexeme
  | [] => []
  | first :: others =>
    let lexeme := Lexeme.read lexicon context first others
    lexeme :: lexemes lexicon lexeme.context ((first :: others).drop lexeme.text.length)
termination_by chars => chars.length
decreasing_by
  have hpositive := List.length_pos_iff.mpr (Lexeme.read lexicon context first others).text_ne_nil
  simp only [List.length_drop, List.length_cons]
  omega

section Lexemes

variable (lexicon : Lexicon) (context : LineContext)

@[simp] theorem lexemes_nil : lexemes lexicon context [] = [] := by
  rw [lexemes]

@[simp] theorem lexemes_cons (first : Char) (others : List Char) :
    lexemes lexicon context (first :: others) =
      Lexeme.read lexicon context first others ::
        lexemes lexicon (Lexeme.read lexicon context first others).context
          ((first :: others).drop (Lexeme.read lexicon context first others).text.length) := by
  rw [lexemes]

end Lexemes

/-- A text cut into lexemes, each read in the context that the one before it left. -/
inductive Cut (lexicon : Lexicon) : LineContext → List Char → List Lexeme → Prop
  | done (context : LineContext) : Cut lexicon context [] []
  | next {context : LineContext} {first : Char} {others rest : List Char} {lexeme : Lexeme}
      {lexemes : List Lexeme} (hread : Lexeme.read lexicon context first others = lexeme)
      (htext : first :: others = lexeme.text ++ rest)
      (hrest : Cut lexicon lexeme.context rest lexemes) :
      Cut lexicon context (first :: others) (lexeme :: lexemes)

section Cut

variable {lexicon : Lexicon} {context : LineContext} {chars : List Char} {cut : List Lexeme}

theorem cut_lexemes (lexicon : Lexicon) (context : LineContext) (chars : List Char) :
    Cut lexicon context chars (lexemes lexicon context chars) := by
  fun_induction lexemes lexicon context chars with
  | case1 context => exact .done context
  | case2 context first others lexeme ih =>
      have hfront := Lexeme.text_isPrefix_read lexicon context first others
      exact .next rfl (List.prefix_iff_eq_append.mp hfront).symm ih

theorem Cut.eq_lexemes (h : Cut lexicon context chars cut) :
    cut = lexemes lexicon context chars := by
  induction h with
  | done context => simp
  | next hread htext _ ih =>
      subst hread
      rw [lexemes_cons, ih, htext, List.drop_left]

theorem Cut.textOf_eq (h : Cut lexicon context chars cut) : textOf cut = chars := by
  induction h with
  | done => rfl
  | next _ htext _ ih => simp [ih, htext]

def LineContext.nextAll (context : LineContext) (lexemes : List Lexeme) : LineContext :=
  lexemes.foldl (fun context lexeme => context.next lexeme.text lexeme.category) context

theorem Cut.drop (h : Cut lexicon context chars cut) (count : Nat) :
    ∃ rest, chars = textOf (cut.take count) ++ rest ∧
      Cut lexicon (context.nextAll (cut.take count)) rest (cut.drop count) := by
  induction h generalizing count with
  | done context => exact ⟨[], by simp, by simpa using .done _⟩
  | @next context first others rest lexeme cut hread htext hrest ih =>
      cases count with
      | zero => exact ⟨first :: others, rfl, .next hread htext hrest⟩
      | succ count =>
          obtain ⟨following, hfollowing, hcut⟩ := ih count
          refine ⟨following, ?_, ?_⟩
          · rw [htext, hfollowing, List.take_succ_cons, textOf_cons, List.append_assoc]
          · subst hread
            rwa [Lexeme.context_read] at hcut

theorem Cut.append {first second : List Lexeme} (h : Cut lexicon context chars (first ++ second)) :
    ∃ rest, chars = textOf first ++ rest ∧ Cut lexicon (context.nextAll first) rest second := by
  simpa using h.drop first.length

theorem Cut.form_of_append {earlier later : List Lexeme} {lexeme : Lexeme}
    (h : Cut lexicon context chars (earlier ++ lexeme :: later)) :
    ∃ first others, Lexeme.Form lexicon (context.nextAll earlier) first others lexeme ∧
      first :: others = lexeme.text ++ textOf later := by
  obtain ⟨rest, -, hcut⟩ := h.append
  cases hcut with
  | next hread htext hlater =>
      subst hread
      exact ⟨_, _, Lexeme.form_read _ _ _ _, by rw [htext, hlater.textOf_eq]⟩

theorem Cut.form_of_getElem? (h : Cut lexicon context chars cut) {index : Nat} {lexeme : Lexeme}
    (hlexeme : cut[index]? = some lexeme) :
    ∃ first others, chars = textOf (cut.take index) ++ first :: others ∧
      Lexeme.Form lexicon (context.nextAll (cut.take index)) first others lexeme := by
  obtain ⟨rest, hchars, hcut⟩ := h.drop index
  obtain ⟨hindex, rfl⟩ := List.getElem?_eq_some_iff.mp hlexeme
  rw [List.drop_eq_getElem_cons hindex] at hcut
  generalize cut[index] = lexeme at hcut ⊢
  cases hcut with
  | @next _ first others _ _ _ hread =>
      subst hread
      exact ⟨first, others, hchars, Lexeme.form_read _ _ _ _⟩

end Cut

/-! ## The tokens that lexemes make -/

def placed : Position → List Lexeme → List ScannedToken
  | _, [] => []
  | start, lexeme :: others =>
    Scanner.scanned start lexeme :: placed (start.after lexeme.text) others

@[simp] theorem placed_append (start : Position) (first second : List Lexeme) :
    placed start (first ++ second) =
      placed start first ++ placed (start.after (textOf first)) second := by
  induction first generalizing start with
  | nil => rfl
  | cons lexeme first ih =>
      simp [placed, ih]

@[simp] theorem map_fault_placed (start : Position) (lexemes : List Lexeme) :
    (placed start lexemes).map ScannedToken.fault = lexemes.map Lexeme.fault := by
  induction lexemes generalizing start with
  | nil => rfl
  | cons lexeme lexemes ih =>
      rw [placed, List.map_cons, List.map_cons, ih]
      rfl

theorem Scanner.toList_eq_placed (scanner : Scanner) :
    scanner.toList =
      placed scanner.position (lexemes scanner.lexicon scanner.context scanner.remaining) := by
  fun_induction Scanner.toList scanner with
  | case1 scanner hnone =>
      unfold next? at hnone
      split at hnone
      · next hremaining => rw [hremaining, lexemes_nil, placed]
      · contradiction
  | case2 scanner token following hnext ih =>
      unfold next? at hnext
      split at hnext
      · contradiction
      · next first others hremaining =>
        simp only [Option.some.injEq, Prod.mk.injEq] at hnext
        obtain ⟨rfl, rfl⟩ := hnext
        rw [ih, hremaining, lexemes_cons, placed]
        simp only [skip, hremaining]

def Token.isGap (token : Token) : Bool := token.category.isGap

def Token.content (token : Token) : String × Category := (token.text, token.category)

def Lexeme.content (lexeme : Lexeme) : String × Category :=
  (String.ofList lexeme.text, lexeme.category)

@[simp] private theorem content_placed (start : Position) (lexemes : List Lexeme) :
    (placed start lexemes).map (fun scanned => scanned.token.content) =
      lexemes.map Lexeme.content := by
  induction lexemes generalizing start with
  | nil => rfl
  | cons lexeme lexemes ih =>
      rw [placed, List.map_cons, List.map_cons, ih]
      rfl

namespace TokenStream

def lexemes (stream : TokenStream) : List Lexeme :=
  ShaderTokens.lexemes stream.lexicon .blank stream.source.toList

theorem cut (stream : TokenStream) :
    Cut stream.lexicon .blank stream.source.toList stream.lexemes :=
  cut_lexemes _ _ _

theorem scan_eq_placed (stream : TokenStream) : stream.scan = placed .origin stream.lexemes :=
  Scanner.toList_eq_placed _

@[simp] theorem textOf_lexemes (stream : TokenStream) : textOf stream.lexemes =
    stream.source.toList :=
  (cut_lexemes _ _ _).textOf_eq

theorem content_allTokens (stream : TokenStream) :
    stream.allTokens.map Token.content = stream.lexemes.map Lexeme.content := by
  rw [allTokens, scan_eq_placed, List.map_map]
  exact content_placed _ _

end TokenStream

end ShaderTokens
