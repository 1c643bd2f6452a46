import ShaderTokens.Lexicon.Classify
import ShaderTokens.Proofs.PlainWords
import ShaderTokens.Proofs.WordMatching

/-!
# Words added to a lexicon

The words that a host adds are joined with those of HLSL into one pattern for each category.  They
still have no effect beyond the lexemes that they match themselves: such a lexeme moves to the
category of the added word if that is consulted earlier, and every other lexeme stays where it was.
-/

namespace ShaderTokens

/-! ## Words by category -/

namespace Lexicon

@[simp] theorem words_cons (table : LexiconTable) (others : List LexiconTable)
    (category : Category) :
    words ⟨table :: others⟩ category =
      if table.category = category then table.words else words ⟨others⟩ category := by
  by_cases hcategory : table.category = category <;> simp [words, table?, hcategory]

private theorem words_of_mapM {table : WordTable} {tables : List LexiconTable}
    (h : table.mapM (fun entry => LexiconTable.build entry.1 entry.2) = .ok tables)
    (category : Category) : words ⟨tables⟩ category = table.words category := by
  rw [mapM_eq_ok_iff_forall₂] at h
  induction h with
  | nil => rfl
  | cons hfirst _ ih =>
      obtain ⟨-, expression, -, rfl⟩ := LexiconTable.eq_of_build hfirst
      rw [words_cons, WordTable.words_cons, ih]

variable {base extensions : WordTable} {lexicon : Lexicon}

theorem words_of_build (h : build base extensions = .ok lexicon) (category : Category) :
    lexicon.words category = base.words category ++ extensions.added category := by
  obtain ⟨words, tables, hwords, htables, rfl⟩ := eq_of_build h
  rw [words_of_mapM htables, WordTable.words_of_extend hwords]

end Lexicon

/-! ## Added words -/

def isWordBounded (lexeme : String) : Bool :=
  lexeme.toList.head?.any Unicode.isWord && lexeme.toList.getLast?.any Unicode.isWord

def matchesAlone (fragment lexeme : String) : Bool :=
  (Pattern.read fragment).toOption.any fun expression =>
    expression.pattern.matchesWhole lexeme.toList

private theorem matchesAlone_eq {fragment : String} (h : Pattern.IsFragment fragment)
    (lexeme : String) :
    matchesAlone fragment lexeme = (Pattern.ofWord fragment).matchesWhole lexeme.toList := by
  obtain ⟨expression, hread, -⟩ := h
  rw [matchesAlone, hread, ofWord_eq_of_read hread]
  rfl

namespace WordTable

def adds (extensions : WordTable) (lexeme : String) (category : Category) : Bool :=
  isWordBounded lexeme && (extensions.added category).any (matchesAlone · lexeme)

end WordTable

namespace Lexicon

variable {base extensions : WordTable} {lexicon plain : Lexicon}

/-- Added words have no effect in a category but for the lexemes that one of them matches alone. -/
theorem hasWord_of_build (h : build base extensions = .ok lexicon)
    (hplain : build base [] = .ok plain) (category : Category) (lexeme : String) :
    lexicon.hasWord category lexeme =
      (plain.hasWord category lexeme || extensions.adds lexeme category) := by
  have hbase : plain.words category = base.words category := by
    rw [words_of_build hplain]
    exact List.append_nil _
  have hfragment : ∀ fragment ∈ extensions.added category, Pattern.IsFragment fragment := by
    intro fragment hmem
    have hword : fragment ∈ lexicon.words category := by
      rw [words_of_build h]
      exact List.mem_append_right _ hmem
    exact isFragment_of_mem_words h hword
  have hadded : ((extensions.added category).any fun word =>
        (Pattern.ofWord word).matchesWhole lexeme.toList) =
      (extensions.added category).any (matchesAlone · lexeme) := by
    rw [Bool.eq_iff_iff, List.any_eq_true, List.any_eq_true]
    exact exists_congr fun fragment => and_congr_right fun hmem => by
      rw [matchesAlone_eq (hfragment fragment hmem)]
  rw [hasWord_eq h, hasWord_eq hplain, words_of_build h, hbase, List.any_append, hadded,
    Bool.and_or_distrib_left, WordTable.adds, isWordBounded]

end Lexicon

/-! ## Categories -/

def earlier (order : List Category) (first second : Category) : Category :=
  if order.idxOf first ≤ order.idxOf second then first else second

def consultationOrder (preprocessor : Bool) : List Category :=
  consulted preprocessor ++ [.identifier]

section Order

variable {order : List Category} {first second last : Category}

@[simp] theorem earlier_head (category : Category) : earlier (first :: order) first category =
    first :=
  if_pos (by simp)

@[simp] theorem earlier_head_right (category : Category) :
    earlier (first :: order) category first = first := by
  by_cases hcategory : category = first
  · rw [hcategory, earlier_head]
  · exact if_neg (by simp [List.idxOf_cons_ne _ (Ne.symm hcategory)])

theorem earlier_cons {category : Category} (hfirst : category ≠ first)
    (hsecond : category ≠ second) :
    earlier (category :: order) first second = earlier order first second := by
  simp [earlier, List.idxOf_cons_ne _ hfirst, List.idxOf_cons_ne _ hsecond]

private theorem find?_getD_mem (isOne : Category → Bool) :
    (order.find? isOne).getD last ∈ order ++ [last] := by
  cases hfound : order.find? isOne with
  | none => simp
  | some found => simp [List.mem_of_find?_eq_some hfound]

private theorem find?_or (hdistinct : (order ++ [last]).Nodup) (isOne isOther : Category → Bool) :
    (order.find? fun category => isOne category || isOther category).getD last =
      (order.find? isOther).elim ((order.find? isOne).getD last)
        (earlier (order ++ [last]) ((order.find? isOne).getD last)) := by
  induction order with
  | nil => rfl
  | cons category order ih =>
      obtain ⟨hfresh, hdistinct⟩ := List.nodup_cons.mp hdistinct
      have hne : ∀ found ∈ order ++ [last], category ≠ found :=
        fun found hmem heq => hfresh (heq ▸ hmem)
      rw [List.find?_cons, List.find?_cons, List.find?_cons, List.cons_append]
      cases hone : isOne category with
      | true =>
          cases hother : isOther category with
          | true => exact (earlier_head category).symm
          | false =>
              cases order.find? isOther with
              | none => rfl
              | some found => exact (earlier_head found).symm
      | false =>
          cases hother : isOther category with
          | true => exact (earlier_head_right _).symm
          | false =>
              refine (ih hdistinct).trans ?_
              cases hfound : order.find? isOther with
              | none => rfl
              | some found =>
                  have hmem : found ∈ order ++ [last] :=
                    List.mem_append_left _ (List.mem_of_find?_eq_some hfound)
                  exact (earlier_cons (hne _ (find?_getD_mem isOne)) (hne _ hmem)).symm

end Order

namespace LexiconOptions

def addedCategory? (options : LexiconOptions) (lexeme : String) : Option Category :=
  precedence.find? (options.extensions.adds lexeme)

private theorem category_of_adds {options : LexiconOptions} {lexeme : String} {category : Category}
    (h : options.extensions.adds lexeme category = true) :
    category ∈ [.type, .qualifier, .keyword, .builtin] := by
  obtain ⟨fragment, hfragment, -⟩ := List.any_eq_true.mp (Bool.and_eq_true _ _ ▸ h).2
  obtain ⟨extension, hextension, hmem⟩ := List.mem_flatMap.mp hfragment
  split at hmem
  next hcategory =>
    have hlisted := List.mem_map_of_mem (f := Prod.fst) hextension
    rwa [hcategory] at hlisted
  next => simp at hmem

private theorem find?_consulted_adds (options : LexiconOptions) (lexeme : String)
    (preprocessor : Bool) :
    (consulted preprocessor).find? (options.extensions.adds lexeme) =
      options.addedCategory? lexeme := by
  cases preprocessor with
  | false => rfl
  | true =>
      have hnone : preprocessorPrecedence.find? (options.extensions.adds lexeme) = none := by
        rw [List.find?_eq_none]
        intro category hmem hadds
        have hextended := category_of_adds hadds
        simp only [preprocessorPrecedence, List.mem_cons, List.not_mem_nil, or_false] at hmem
        obtain rfl | rfl := hmem <;> simp at hextended
      change (preprocessorPrecedence ++ precedence).find? _ = _
      rw [List.find?_append, hnone, Option.none_or, addedCategory?]

end LexiconOptions

namespace Lexicon

variable {options : LexiconOptions} {lexicon : Lexicon}

theorem hasWord_ofOptions (h : ofOptions options = .ok lexicon) (category : Category)
    (lexeme : String) :
    lexicon.hasWord category lexeme =
      (standard.hasWord category lexeme || options.extensions.adds lexeme category) := by
  have hplain : build hlslWords [] = .ok standard := by
    rw [build_of_forall_eq_nil hlslWords (List.forall_mem_nil _), ofWords_hlslWords]
  exact hasWord_of_build h hplain category lexeme

/-- Added words take the lexemes that they match to their own category where that is consulted
earlier, and change nothing else. -/
theorem classify_ofOptions (h : ofOptions options = .ok lexicon) (lexeme : String)
    (preprocessor : Bool) :
    lexicon.classify lexeme preprocessor =
        (options.addedCategory? lexeme).elim (standard.classify lexeme preprocessor)
          (earlier (consultationOrder preprocessor) (standard.classify lexeme preprocessor)) ∧
      ((∀ category, ∀ fragment ∈ options.extensions.added category,
          matchesAlone fragment lexeme = false) →
        lexicon.classify lexeme preprocessor = standard.classify lexeme preprocessor) ∧
      (∀ category, standard.hasWord category lexeme = true →
        lexicon.hasWord category lexeme = true) ∧
      (standard.classify lexeme preprocessor ≠ .identifier →
        lexicon.classify lexeme preprocessor ≠ .identifier) := by
  have hclassify : lexicon.classify lexeme preprocessor =
      (options.addedCategory? lexeme).elim (standard.classify lexeme preprocessor)
        (earlier (consultationOrder preprocessor) (standard.classify lexeme preprocessor)) := by
    have hdistinct : (consulted preprocessor ++ [Category.identifier]).Nodup := by
      cases preprocessor <;> decide
    simp only [classify, hasWord_ofOptions h, ← options.find?_consulted_adds lexeme preprocessor]
    exact find?_or hdistinct _ _
  refine ⟨hclassify, ?_, ?_, ?_⟩
  · intro hnone
    have hadded : options.addedCategory? lexeme = none := by
      refine List.find?_eq_none.mpr fun category _ hadds => ?_
      obtain ⟨fragment, hmem, hmatches⟩ := List.any_eq_true.mp (Bool.and_eq_true _ _ ▸ hadds).2
      simp [hnone category fragment hmem] at hmatches
    rw [hclassify, hadded]
    rfl
  · intro category hword
    rw [hasWord_ofOptions h, hword, Bool.true_or]
  · intro hknown
    rw [hclassify]
    cases hadded : options.addedCategory? lexeme with
    | none => exact hknown
    | some added =>
        have hprecedence : added ∈ precedence := List.mem_of_find?_eq_some hadded
        rw [Option.elim_some, earlier]
        split
        · exact hknown
        · rintro rfl
          simp [precedence] at hprecedence

theorem classify_discard :
    ∃ lexicon, ofOptions { additionalTypes := ["discard"] } = .ok lexicon ∧
      lexicon.classify "discard" false = .type ∧
      lexicon.classify "discards" false = standard.classify "discards" false := by
  have hjoinable : IsJoinable "discard" := (isPlainWord_ofList rfl).isJoinable
  have hlexicon : ∃ lexicon, ofOptions { additionalTypes := ["discard"] } = .ok lexicon :=
    exists_ofOptions_eq_ok (by simpa [LexiconOptions.extensions] using hjoinable)
  obtain ⟨lexicon, hlexicon⟩ := hlexicon
  refine ⟨lexicon, hlexicon, ?_, ?_⟩
  · have hadded : LexiconOptions.addedCategory? { additionalTypes := ["discard"] } "discard" =
        some .type := by
      decide +kernel
    have horder : consultationOrder false = .type :: (precedence.tail ++ [.identifier]) := rfl
    rw [(classify_ofOptions hlexicon "discard" false).1, hadded, Option.elim_some, horder,
      earlier_head_right]
  · refine (classify_ofOptions hlexicon "discards" false).2.1 fun category fragment hmem => ?_
    have hfragment : fragment = "discard" := by
      cases category <;> simp_all [LexiconOptions.extensions, WordTable.added]
    rw [hfragment]
    decide +kernel

end Lexicon

end ShaderTokens
