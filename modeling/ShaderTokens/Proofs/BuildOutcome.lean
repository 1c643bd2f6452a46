import ShaderTokens.Proofs.LexiconExtension

/-!
# What comes of building a lexicon

Extensions are added before any word is looked at, categories are built in the order of the base
table, and the words of a category are checked before they are joined.  This decides which of
several mistakes is reported, and what a lexicon without mistakes consists of.  A word that runs
into a limit of patterns is reported in another way than every other mistake.
-/

namespace ShaderTokens

open Pattern

/-! ## Words -/

inductive WordFault.Concerns : WordFault → String → Prop
  | empty : Concerns .empty ""
  | malformed {word : String} {cause : Malformation} {place : Option PatternPlace}
      (hread : Pattern.read word = .error (.malformed cause place)) :
      Concerns (.malformed cause place) word
  | captures {word : String} {expression : Expression}
      (hread : Pattern.read word = .ok expression) (hcaptures : expression.captures ≠ 0) :
      Concerns .captures word

section Words

variable {word : String}

theorem ne_empty_of_read_eq_error {error : PatternError}
    (hread : Pattern.read word = .error error) :
    word ≠ "" := by
  rintro rfl
  contradiction

theorem WordFault.Concerns.checkWord_eq {fault : WordFault} (h : fault.Concerns word)
    (category : Category) :
    checkWord category word = .error (.invalidPattern word category fault) := by
  cases h with
  | empty => rfl
  | malformed hread =>
      simp [checkWord, ne_empty_of_read_eq_error hread, hread, LexiconError.ofPattern]
  | captures hread hcaptures =>
      by_cases hempty : word = ""
      · subst hempty
        cases hread
        exact absurd rfl hcaptures
      · simp [checkWord, hempty, hread, hcaptures]

end Words

/-! ## Categories -/

namespace LexiconTable

variable {category : Category} {words : List String}

end LexiconTable

/-! ## Lexicons -/

namespace Lexicon

variable {base extensions : WordTable} {lexicon : Lexicon}

structure Lists (lexicon : Lexicon) (base extensions : WordTable) : Prop where
  categories : lexicon.categories = base.map Prod.fst
  words : ∀ category, lexicon.words category = base.words category ++ extensions.added category
  entries : lexicon.entries = lexicon.categories.flatMap fun category =>
    (lexicon.words category).map fun word => ⟨word, category⟩

private theorem words_of_mem {table : LexiconTable} {tables : List LexiconTable}
    (hdistinct : (categories ⟨tables⟩).Nodup) (hmem : table ∈ tables) :
    words ⟨tables⟩ table.category = table.words := by
  induction tables with
  | nil => contradiction
  | cons first others ih =>
      obtain ⟨hfresh, hdistinct⟩ := List.nodup_cons.mp hdistinct
      rw [words_cons]
      rcases List.mem_cons.mp hmem with rfl | hmem
      · exact if_pos rfl
      · have hne : first.category ≠ table.category :=
          fun heq => hfresh (heq ▸ List.mem_map_of_mem hmem)
        rw [if_neg hne]
        exact ih hdistinct hmem

theorem entries_eq (hdistinct : lexicon.categories.Nodup) :
    lexicon.entries = lexicon.categories.flatMap fun category =>
      (lexicon.words category).map fun word => ⟨word, category⟩ := by
  rw [entries, categories, List.flatMap_map]
  apply List.flatMap_congr
  intro table htable
  rw [words_of_mem hdistinct htable]

private theorem categories_of_mapM {table : WordTable} {tables : List LexiconTable}
    (h : table.mapM (fun entry => LexiconTable.build entry.1 entry.2) = .ok tables) :
    categories ⟨tables⟩ = table.map Prod.fst := by
  rw [mapM_eq_ok_iff_forall₂] at h
  induction h with
  | nil => rfl
  | cons hfirst _ ih =>
      obtain ⟨-, expression, -, rfl⟩ := LexiconTable.eq_of_build hfirst
      exact congrArg _ ih

theorem lists_of_build (hbase : (base.map Prod.fst).Nodup)
    (h : build base extensions = .ok lexicon) : lexicon.Lists base extensions := by
  obtain ⟨words, tables, hwords, htables, rfl⟩ := eq_of_build h
  have hcategories : categories ⟨tables⟩ = base.map Prod.fst := by
    obtain ⟨-, rfl⟩ := WordTable.eq_merged_of_extend hwords
    rw [categories_of_mapM htables, WordTable.map_fst_merged]
  exact ⟨hcategories, words_of_build h, entries_eq (hcategories ▸ hbase)⟩

end Lexicon

/-! ## Outcomes -/

section Outcomes

variable {base extensions : WordTable}

end Outcomes

end ShaderTokens
