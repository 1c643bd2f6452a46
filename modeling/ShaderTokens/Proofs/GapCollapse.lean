import Mathlib.Data.List.Basic
import ShaderTokens.Proofs.LexemeBoundary
import ShaderTokens.Proofs.Lexemes

/-!
# Gaps carry no meaning

White space and comments matter only as gaps, and of a gap it matters only whether it holds a line
feed.  Collapsing every run of gaps to one character leaves the other tokens as they are.
-/

namespace ShaderTokens

/-! ## Collapsing gaps -/

def seam (run : List (String × Category)) : Char :=
  if run.any fun content => content.1.toList.contains '\n' then '\n' else ' '

/-- The source of some tokens with a seam in place of every longest run of gaps. -/
def collapseGaps : List (String × Category) → List Char
  | [] => []
  | content :: others =>
    if content.2.isGap then
      seam (content :: others.takeWhile (·.2.isGap)) ::
        collapseGaps (others.dropWhile (·.2.isGap))
    else content.1.toList ++ collapseGaps others
termination_by contents => contents.length
decreasing_by
  · exact Nat.lt_succ_of_le (List.length_dropWhile_le _ _)
  · exact Nat.lt_succ_self _

section Equations

variable {lexeme : Lexeme} (cut : List Lexeme)

theorem collapseGaps_cons_of_isGap (h : lexeme.category.isGap = true) :
    collapseGaps ((lexeme :: cut).map Lexeme.content) =
      seam ((lexeme :: cut.takeWhile (·.category.isGap)).map Lexeme.content) ::
        collapseGaps ((cut.dropWhile (·.category.isGap)).map Lexeme.content) := by
  rw [List.map_cons, collapseGaps, if_pos (show lexeme.content.2.isGap = true from h),
    List.takeWhile_map, List.dropWhile_map]
  rfl

theorem collapseGaps_cons_of_not_isGap (h : lexeme.category.isGap = false) :
    collapseGaps ((lexeme :: cut).map Lexeme.content) =
      lexeme.text ++ collapseGaps (cut.map Lexeme.content) := by
  rw [List.map_cons, collapseGaps, if_neg (by simpa [Lexeme.content] using h)]
  simp [Lexeme.content]

end Equations

theorem seam_eq (run : List Lexeme) :
    seam (run.map Lexeme.content) = if '\n' ∈ textOf run then '\n' else ' ' := by
  simp [seam, textOf, Lexeme.content]

@[simp] theorem isSpace_seam (run : List (String × Category)) : Lexeme.isSpace (seam run) = true :=
    by
  unfold seam
  split <;> rfl

/-! ## Runs of gaps -/

namespace LineContext

@[simp] theorem afterGap_append (context : LineContext) (first second : List Char) :
    context.afterGap (first ++ second) = (context.afterGap first).afterGap second := by
  by_cases hfirst : '\n' ∈ first <;> by_cases hsecond : '\n' ∈ second <;>
    simp [afterGap, hfirst, hsecond]

private theorem nextAll_of_isGap (context : LineContext) {run : List Lexeme}
    (h : ∀ lexeme ∈ run, lexeme.category.isGap = true) :
    context.nextAll run = context.afterGap (textOf run) := by
  induction run generalizing context with
  | nil => rfl
  | cons lexeme run ih =>
      have hnext : context.next lexeme.text lexeme.category = context.afterGap lexeme.text := by
        simp [next, h lexeme]
      rw [textOf_cons, afterGap_append, ← hnext]
      exact ih _ fun lexeme hlexeme => h lexeme (List.mem_cons_of_mem _ hlexeme)

private theorem afterGap_seam (context : LineContext) (run : List Lexeme) :
    context.afterGap [seam (run.map Lexeme.content)] = context.afterGap (textOf run) := by
  rw [seam_eq]
  by_cases h : '\n' ∈ textOf run <;> simp [afterGap, h]

end LineContext

/-! ## The collapsed source -/

section Collapse

variable {lexicon : Lexicon} {context : LineContext} {chars : List Char} {cut : List Lexeme}

theorem Cut.alike_collapseGaps (h : Cut lexicon context chars cut) :
    Alike chars (collapseGaps (cut.map Lexeme.content)) := by
  induction h with
  | done => simpa [ShaderTokens.collapseGaps] using Alike.nil
  | @next context first others rest lexeme cut hread htext hrest ih =>
      subst hread
      have hspace := Lexeme.isSpace_of_form (Lexeme.form_read lexicon context first others)
      cases hgap : (Lexeme.read lexicon context first others).category.isGap with
      | true =>
          rw [collapseGaps_cons_of_isGap cut hgap]
          rw [hgap] at hspace
          refine ⟨[], first :: others, _, rfl, rfl, ?_, ?_, by simp⟩
          · simpa using hspace
          · simp
      | false =>
          rw [collapseGaps_cons_of_not_isGap cut hgap, htext]
          exact ih.append _

theorem Cut.stopsAt_collapseGaps (h : Cut lexicon context chars cut)
    (hhead : ∀ lexeme ∈ cut.head?, lexeme.category.isGap = false) :
    StopsAt Lexeme.isSpace (collapseGaps (cut.map Lexeme.content)) := by
  cases h with
  | done => simp [collapseGaps]
  | @next _ first others rest lexeme cut hread htext hrest =>
      subst hread
      have hform := Lexeme.form_read lexicon context first others
      have hgap := hhead _ rfl
      have hspace := Lexeme.isSpace_of_form hform
      obtain ⟨tail, htail⟩ := List.head?_eq_some_iff.mp (Lexeme.head?_text_of_form hform)
      rw [collapseGaps_cons_of_not_isGap cut hgap, htail, List.cons_append, stopsAt_cons]
      simpa [hgap] using hspace

structure Collapsed (cut collapsed : List Lexeme) : Prop where
  content_eq : (collapsed.filter (·.category ≠ .whitespace)).map Lexeme.content =
    (cut.filter (!·.category.isGap)).map Lexeme.content
  not_comment : ∀ lexeme ∈ collapsed, lexeme.category ≠ .comment

theorem Collapsed.cons_of_not_isGap {collapsed : List Lexeme} (h : Collapsed cut collapsed)
    {lexeme : Lexeme} (hgap : lexeme.category.isGap = false) :
    Collapsed (lexeme :: cut) (lexeme :: collapsed) where
  content_eq := by
    have hcategory : lexeme.category ≠ .whitespace := by
      intro heq
      rw [heq] at hgap
      contradiction
    simpa [hcategory, hgap] using h.content_eq
  not_comment := by
    intro current hcurrent
    rcases List.mem_cons.mp hcurrent with rfl | hcurrent
    · intro heq
      rw [heq] at hgap
      contradiction
    · exact h.not_comment current hcurrent

theorem Collapsed.cons_of_isGap {run cut collapsed : List Lexeme} (h : Collapsed cut collapsed)
    (hrun : ∀ lexeme ∈ run, lexeme.category.isGap = true) (lexeme : Lexeme)
    (hcategory : lexeme.category = .whitespace) :
    Collapsed (run ++ cut) (lexeme :: collapsed) where
  content_eq := by
    have hfilter : run.filter (!·.category.isGap) = [] := by
      simpa using hrun
    simpa [hcategory, hfilter] using h.content_eq
  not_comment := by
    intro current hcurrent
    rcases List.mem_cons.mp hcurrent with rfl | hcurrent
    · simp [hcategory]
    · exact h.not_comment current hcurrent

theorem Cut.cons_blank {blank : Char} {others : List Char} {collapsed : List Lexeme}
    (hblank : Lexeme.isSpace blank = true) (hstops : StopsAt Lexeme.isSpace others)
    (hcut : Cut lexicon (context.afterGap [blank]) others collapsed) :
    Cut lexicon context (blank :: others) (.whitespace context blank others :: collapsed) := by
  have htext : (Lexeme.whitespace context blank others).text = [blank] := by
    simp [Lexeme.whitespace, takeWhile_eq_nil_iff_stopsAt.mpr hstops]
  have hcontext : (Lexeme.whitespace context blank others).context = context.afterGap [blank] := by
    rw [← htext]
    rfl
  refine .next (Lexeme.read_of_isSpace lexicon context hblank others) ?_ (hcontext ▸ hcut)
  rw [htext, List.singleton_append]

private theorem head?_dropWhile_isGap (cut : List Lexeme) :
    ∀ lexeme ∈ (cut.dropWhile (·.category.isGap)).head?, lexeme.category.isGap = false := by
  intro lexeme hlexeme
  have hhead := List.head?_dropWhile_not (fun lexeme : Lexeme => lexeme.category.isGap) cut
  rwa [hlexeme] at hhead

theorem Cut.exists_collapsed (h : Cut lexicon context chars cut) :
    ∃ collapsed, Cut lexicon context (collapseGaps (cut.map Lexeme.content)) collapsed ∧
      Collapsed cut collapsed := by
  -- A run of gaps is taken at once, so the induction is on the length.
  induction hlength : cut.length using Nat.strong_induction_on generalizing context chars cut with
  | _ length ih =>
    cases cut with
    | nil =>
        refine ⟨[], ?_, rfl, by simp⟩
        simpa [collapseGaps] using Cut.done context
    | cons lexeme cut =>
        cases hgap : lexeme.category.isGap with
        | false =>
            cases h with
            | @next _ first others rest _ _ hread htext hrest =>
                have hform := hread ▸ Lexeme.form_read lexicon context first others
                obtain ⟨tail, htail⟩ :=
                  List.head?_eq_some_iff.mp (Lexeme.head?_text_of_form hform)
                rw [htail, List.cons_append, List.cons.injEq] at htext
                obtain ⟨-, rfl⟩ := htext
                have hother := Lexeme.read_eq_of_alike hform hgap htail hrest.alike_collapseGaps
                obtain ⟨collapsed, hcut, hcollapsed⟩ := ih _ (by simp [← hlength]) hrest rfl
                refine ⟨lexeme :: collapsed, ?_, hcollapsed.cons_of_not_isGap hgap⟩
                rw [collapseGaps_cons_of_not_isGap cut hgap, htail]
                exact .next hother (by rw [htail]; rfl) hcut
        | true =>
            have hrun : ∀ current ∈ lexeme :: cut.takeWhile (·.category.isGap),
                current.category.isGap = true := by
              intro current hcurrent
              rcases List.mem_cons.mp hcurrent with rfl | hcurrent
              · exact hgap
              · simpa using List.mem_takeWhile_imp hcurrent
            have hsplit : lexeme :: cut =
                lexeme :: cut.takeWhile (·.category.isGap) ++ cut.dropWhile (·.category.isGap) := by
              rw [List.cons_append, List.takeWhile_append_dropWhile]
            rw [hsplit] at h
            obtain ⟨rest, -, hrest⟩ := h.append
            rw [context.nextAll_of_isGap hrun, ← context.afterGap_seam] at hrest
            have hlt : (cut.dropWhile (·.category.isGap)).length < length := by
              have hle := List.length_dropWhile_le (·.category.isGap) cut
              rw [← hlength, List.length_cons]
              omega
            obtain ⟨collapsed, hcut, hcollapsed⟩ := ih _ hlt hrest rfl
            have hstops := hrest.stopsAt_collapseGaps (head?_dropWhile_isGap cut)
            rw [collapseGaps_cons_of_isGap cut hgap]
            refine ⟨_, Cut.cons_blank (isSpace_seam _) hstops hcut, ?_⟩
            rw [hsplit]
            exact hcollapsed.cons_of_isGap hrun _ rfl

end Collapse

theorem map_content_filter_allTokens (stream : TokenStream) (keeps : Category → Bool) :
    (stream.allTokens.filter fun token => keeps token.category).map Token.content =
      (stream.lexemes.filter fun lexeme => keeps lexeme.category).map Lexeme.content := by
  have hcontents := congrArg (List.filter fun content => keeps content.2) stream.content_allTokens
  rw [List.filter_map, List.filter_map] at hcontents
  exact hcontents

/-- Collapsing the gaps of a source leaves its other tokens as they are, and no comment. -/
theorem content_tokens_of_collapseGaps (stream : TokenStream) :
    let collapsed : TokenStream :=
      { stream with source := String.ofList (collapseGaps (stream.allTokens.map Token.content)) }
    (collapsed.tokens false).map Token.content =
        (stream.allTokens.filter fun token => !token.isGap).map Token.content ∧
      ∀ token ∈ collapsed.allTokens, token.category ≠ .comment := by
  intro collapsed
  obtain ⟨cut, hcut, hcollapsed⟩ :=
    (cut_lexemes stream.lexicon .blank stream.source.toList).exists_collapsed
  have hsource : collapsed.source.toList = collapseGaps (stream.lexemes.map Lexeme.content) := by
    rw [← stream.content_allTokens]
    exact String.toList_ofList
  have hlexemes : collapsed.lexemes = cut := by
    rw [TokenStream.lexemes, hsource]
    exact hcut.eq_lexemes.symm
  constructor
  · calc
      (collapsed.tokens false).map Token.content
        = (collapsed.lexemes.filter (·.category ≠ .whitespace)).map Lexeme.content :=
          by simpa [TokenStream.tokens, Token.isWhitespace] using
            map_content_filter_allTokens collapsed (· ≠ .whitespace)
      _ = (stream.lexemes.filter (!·.category.isGap)).map Lexeme.content := by
          rw [hlexemes, hcollapsed.content_eq]
          rfl
      _ = (stream.allTokens.filter fun token => !token.isGap).map Token.content :=
          (map_content_filter_allTokens stream (!·.isGap)).symm
  · intro token htoken
    have hmem : token.content ∈ cut.map Lexeme.content := by
      rw [← hlexemes, ← collapsed.content_allTokens]
      exact List.mem_map_of_mem htoken
    obtain ⟨lexeme, hlexeme, hcontent⟩ := List.mem_map.mp hmem
    have hcategory : lexeme.category = token.category := congrArg Prod.snd hcontent
    rw [← hcategory]
    exact hcollapsed.not_comment lexeme hlexeme

/-- A comment over two lines ends a preprocessor line as a line feed does. -/
theorem content_tokens_of_collapseGaps_comment :
    let stream : TokenStream := ⟨⟨[]⟩, "#a/*\n*/ #b//c", "input.hlsl"⟩
    let collapsed : TokenStream := ⟨⟨[]⟩, "#a\n#b ", "input.hlsl"⟩
    let blank : Token := ⟨" ", .whitespace, 5, 6, 2, 3⟩
    String.ofList (collapseGaps (stream.allTokens.map Token.content)) = collapsed.source ∧
      (collapsed.tokens false).map Token.content =
        [("#", .punctuation), ("a", .identifier), ("#", .punctuation), ("b", .identifier)] ∧
      blank ∈ collapsed.allTokens ∧ blank.category ≠ .comment := by
  intro stream collapsed blank
  have hsource : String.ofList (collapseGaps (stream.allTokens.map Token.content)) =
      collapsed.source := by
    decide +kernel
  have hblank : blank ∈ collapsed.allTokens := by decide +kernel
  have hcollapsed := content_tokens_of_collapseGaps stream
  rw [hsource] at hcollapsed
  refine ⟨hsource, hcollapsed.1.trans ?_, hblank, hcollapsed.2 blank hblank⟩
  decide +kernel

end ShaderTokens
