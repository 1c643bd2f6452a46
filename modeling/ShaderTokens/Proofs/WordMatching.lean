import Mathlib.Data.List.Basic
import ShaderTokens.Proofs.FirstFailure
import ShaderTokens.Proofs.JoinedPattern
import ShaderTokens.Proofs.PatternEnds

/-!
# Words of a category

The matcher of a category is read from all its words at once.  It matches what one of the words
matches on its own, as far as that begins and ends with word characters.
-/

namespace ShaderTokens

open Pattern

/-! ## Checked words -/

@[simp] theorem mem_joinOrder {word : String} {words : List String} :
    word ∈ joinOrder words ↔ word ∈ words := by
  rw [joinOrder, List.mem_mergeSort, List.mem_eraseDups]

theorem checkWord_eq_ok_iff {category : Category} {word : String} :
    checkWord category word = .ok () ↔ word ≠ "" ∧ IsFragment word := by
  unfold checkWord IsFragment
  by_cases hempty : word = ""
  · simp [hempty]
  · cases hread : Pattern.read word with
    | error error => simp [hempty]
    | ok expression => simp [hempty]

theorem ofWord_eq_of_read {word : String} {expression : Expression}
    (h : Pattern.read word = .ok expression) : ofWord word = expression.pattern := by
  rw [ofWord, h]

/-! ## Tables -/

namespace LexiconTable

theorem build_of_checked {category : Category} {words : List String}
    (h : words.forM (checkWord category) = .ok ()) :
    build category words =
      match Pattern.read (joinWords words) with
      | .error error => .error (.ofPattern (joinWords words) category error)
      | .ok expression => .ok ⟨category, words, expression.pattern⟩ := by
  rw [build, h]
  simp only [bind, Except.bind]
  cases Pattern.read (joinWords words) with
  | error error => rfl
  | ok expression => rfl

theorem eq_of_build {category : Category} {words : List String} {table : LexiconTable}
    (h : build category words = .ok table) :
    words.forM (checkWord category) = .ok () ∧ ∃ expression,
      Pattern.read (joinWords words) = .ok expression ∧
        table = ⟨category, words, expression.pattern⟩ := by
  cases hchecks : words.forM (checkWord category) with
  | error error =>
      rw [build, hchecks] at h
      cases h
  | ok =>
      rw [build_of_checked hchecks] at h
      cases hread : Pattern.read (joinWords words) with
      | error error =>
          rw [hread] at h
          cases h
      | ok expression =>
          rw [hread] at h
          cases h
          exact ⟨rfl, expression, rfl, rfl⟩

theorem build_eq_ok {category : Category} {words : List String} {table : LexiconTable}
    (h : build category words = .ok table) :
    (∀ word ∈ table.words, IsFragment word) ∧ ∃ expression,
      Pattern.read (joinWords table.words) = .ok expression ∧
        table.matcher = expression.pattern := by
  obtain ⟨hchecks, expression, hread, rfl⟩ := eq_of_build h
  have haccepted := forM_eq_ok_iff.mp hchecks
  exact ⟨fun word hmem => (checkWord_eq_ok_iff.mp (haccepted word hmem)).2, expression, hread, rfl⟩

theorem pattern_of_read_never {expression : Expression}
    (h : Pattern.read "(?!)" = .ok expression) :
    expression.pattern = sequence [look .ahead true empty] := by
  have hread : Pattern.read "(?!)" = .ok ⟨sequence [look .ahead true empty], 0⟩ := rfl
  rw [hread] at h
  cases h
  rfl

private theorem run_never (cursor : Cursor) (accept : Cursor → Option Cursor) :
    (sequence [look .ahead true empty]).run cursor accept = none := rfl

private theorem matchesWhole_matcher {category : Category} {words : List String}
    {table : LexiconTable} (h : build category words = .ok table) (text : List Char) :
    table.matcher.matchesWhole text =
      (text.head?.any Unicode.isWord && text.getLast?.any Unicode.isWord &&
        table.words.any fun word => (ofWord word).matchesWhole text) := by
  obtain ⟨hfragments, expression, hread, hmatcher⟩ := build_eq_ok h
  have hany : (table.words.any fun word => (ofWord word).matchesWhole text) =
      (joinOrder table.words).any fun word => (ofWord word).matchesWhole text := by
    rw [Bool.eq_iff_iff, List.any_eq_true, List.any_eq_true]
    simp only [mem_joinOrder]
  rw [hmatcher, hany]
  unfold joinWords at hread
  split at hread
  next hempty =>
    rw [pattern_of_read_never hread, matchesWhole, run_never, hempty]
    simp
  next ordered hsome =>
    have hordered : ∀ word ∈ joinOrder table.words, IsFragment word :=
      fun word hmem => hfragments word (mem_joinOrder.mp hmem)
    rw [pattern_of_read_joinText hsome hordered hread, joinPattern, matchesWhole_betweenBoundaries,
      matchesWhole_alternatives (by simpa using hsome), List.any_map]
    simp only [Function.comp_def, matchesWhole_sequence_singleton]

end LexiconTable

/-! ## Lexicons -/

namespace Lexicon

variable {base extensions : WordTable} {lexicon : Lexicon}

theorem eq_of_build (h : build base extensions = .ok lexicon) :
    ∃ words tables, base.extend extensions = .ok words ∧
      words.mapM (fun entry => LexiconTable.build entry.1 entry.2) = .ok tables ∧
      lexicon = ⟨tables⟩ := by
  unfold build at h
  cases hextended : base.extend extensions with
  | error error =>
      rw [hextended] at h
      cases h
  | ok words =>
      rw [hextended] at h
      change ofWords words = .ok lexicon at h
      unfold ofWords at h
      cases htables : words.mapM fun entry => LexiconTable.build entry.1 entry.2 with
      | error error =>
          rw [htables] at h
          cases h
      | ok tables =>
          rw [htables] at h
          cases h
          exact ⟨words, tables, rfl, htables, rfl⟩

theorem exists_build_of_table? (h : build base extensions = .ok lexicon) {category : Category}
    {table : LexiconTable} (htable : lexicon.table? category = some table) :
    ∃ entry : Category × List String, LexiconTable.build entry.1 entry.2 = .ok table := by
  obtain ⟨words, tables, -, htables, rfl⟩ := eq_of_build h
  obtain ⟨entry, -, hentry⟩ :=
    exists_of_mem_of_mapM_eq_ok htables (List.mem_of_find?_eq_some htable)
  exact ⟨entry, hentry⟩

theorem hasWord_eq (h : build base extensions = .ok lexicon) (category : Category)
    (lexeme : String) :
    lexicon.hasWord category lexeme =
      (lexeme.toList.head?.any Unicode.isWord && lexeme.toList.getLast?.any Unicode.isWord &&
        (lexicon.words category).any fun word => (ofWord word).matchesWhole lexeme.toList) := by
  cases htable : lexicon.table? category with
  | none => simp [hasWord, words, htable]
  | some table =>
      obtain ⟨entry, hentry⟩ := exists_build_of_table? h htable
      have hmatcher := LexiconTable.matchesWhole_matcher hentry lexeme.toList
      simpa [hasWord, words, htable] using hmatcher

theorem isFragment_of_mem_words (h : build base extensions = .ok lexicon) {category : Category}
    {word : String} (hmem : word ∈ lexicon.words category) : IsFragment word := by
  cases htable : lexicon.table? category with
  | none => simp [words, htable] at hmem
  | some table =>
      obtain ⟨entry, hentry⟩ := exists_build_of_table? h htable
      obtain ⟨hfragments, -⟩ := LexiconTable.build_eq_ok hentry
      exact hfragments word (by simpa [words, htable] using hmem)

/-- A lexeme belongs to a category when it begins and ends with word characters and one of the words
matches it on its own.  The order and the repetition of the words do not matter. -/
theorem hasWord_iff_exists_word (h : build base extensions = .ok lexicon) (category : Category)
    (lexeme : String) :
    (lexicon.hasWord category lexeme = true ↔
      lexeme ≠ "" ∧ (∀ first ∈ lexeme.toList.head?, Unicode.isWord first = true) ∧
        (∀ last ∈ lexeme.toList.getLast?, Unicode.isWord last = true) ∧
          ∃ word ∈ lexicon.words category, ∃ expression, Pattern.read word = .ok expression ∧
            expression.pattern.matchesWhole lexeme.toList = true) ∧
      (lexicon.words category = [] → lexicon.hasWord category lexeme = false) ∧
      ∀ {base' extensions' : WordTable} {other : Lexicon},
        build base' extensions' = .ok other →
          (∀ word, word ∈ other.words category ↔ word ∈ lexicon.words category) →
            other.hasWord category lexeme = lexicon.hasWord category lexeme := by
  refine ⟨?_, ?_, ?_⟩
  · rw [hasWord_eq h, Bool.and_eq_true, Bool.and_eq_true, List.any_eq_true, and_assoc]
    constructor
    · rintro ⟨hfirst, hlast, word, hmem, hmatch⟩
      obtain ⟨expression, hread, -⟩ := isFragment_of_mem_words h hmem
      rw [ofWord_eq_of_read hread] at hmatch
      refine ⟨?_, fun first hmem => ?_, fun last hmem => ?_, word, hmem, expression, hread, hmatch⟩
      · rintro rfl
        cases hfirst
      · rwa [Option.mem_def.mp hmem] at hfirst
      · rwa [Option.mem_def.mp hmem] at hlast
    · rintro ⟨hne, hfirst, hlast, word, hmem, expression, hread, hmatch⟩
      have hchars : lexeme.toList ≠ [] := by simpa using hne
      refine ⟨?_, ?_, word, hmem, by rwa [ofWord_eq_of_read hread]⟩
      · rw [List.head?_eq_some_head hchars]
        exact hfirst _ (List.head?_eq_some_head hchars)
      · rw [List.getLast?_eq_some_getLast hchars]
        exact hlast _ (List.getLast?_eq_some_getLast hchars)
  · intro hempty
    rw [hasWord_eq h, hempty, List.any_nil, Bool.and_false]
  · intro base' extensions' other hother hsame
    rw [hasWord_eq h, hasWord_eq hother]
    congr 1
    rw [Bool.eq_iff_iff, List.any_eq_true, List.any_eq_true]
    simp only [hsame]

theorem build_singleton (category : Category) (words : List String) :
    build [(category, words)] [] =
      (LexiconTable.build category words).map fun table => ⟨[table]⟩ := by
  change ofWords [(category, words)] = _
  rw [ofWords, List.mapM_cons]
  cases LexiconTable.build category words with
  | error error => rfl
  | ok table => rfl

private theorem joinOrder_alternation {words : List String}
    (h : words.eraseDups = ["a|abc", "a"]) : joinOrder words = ["a|abc", "a"] := by
  rw [joinOrder, h]
  exact List.mergeSort_of_pairwise (by decide +kernel)

private theorem exists_lexicon_alternation {words : List String}
    (hwords : words.forM (checkWord .keyword) = .ok ()) (h : words.eraseDups = ["a|abc", "a"]) :
    ∃ lexicon, build [(.keyword, words)] [] = .ok lexicon ∧ lexicon.words .keyword = words ∧
      lexicon.words .type = [] := by
  have hread : (Pattern.read "\\b(?:(?:a|abc)|(?:a))\\b").toOption.isSome = true := by
    decide +kernel
  have hjoin : joinWords words = "\\b(?:(?:a|abc)|(?:a))\\b" := by
    rw [joinWords, joinOrder_alternation h]
    decide +kernel
  rw [← hjoin] at hread
  cases hexpression : Pattern.read (joinWords words) with
  | error error =>
      rw [hexpression] at hread
      contradiction
  | ok expression =>
      rw [build_singleton, LexiconTable.build_of_checked hwords, hexpression]
      exact ⟨_, rfl, rfl, rfl⟩

theorem hasWord_alternation :
    ∃ lexicon other, build [(.keyword, ["a|abc", "a"])] [] = .ok lexicon ∧
      build [(.keyword, ["a|abc", "a", "a"])] [] = .ok other ∧
      lexicon.hasWord .keyword "abc" = true ∧ other.hasWord .keyword "abc" = true ∧
      lexicon.words .type = [] ∧ lexicon.hasWord .type "abc" = false := by
  obtain ⟨lexicon, hlexicon, hwords, htypes⟩ :
      ∃ lexicon, build [(.keyword, ["a|abc", "a"])] [] = .ok lexicon ∧
        lexicon.words .keyword = ["a|abc", "a"] ∧ lexicon.words .type = [] :=
    exists_lexicon_alternation (by decide +kernel) (by decide)
  obtain ⟨other, hother, hothers, -⟩ :
      ∃ other, build [(.keyword, ["a|abc", "a", "a"])] [] = .ok other ∧
        other.words .keyword = ["a|abc", "a", "a"] ∧ other.words .type = [] :=
    exists_lexicon_alternation (by decide +kernel) (by decide)
  have hmatch : lexicon.hasWord .keyword "abc" = true := by
    refine (hasWord_iff_exists_word hlexicon .keyword "abc").1.mpr ?_
    refine ⟨by decide, ?_, ?_, "a|abc", by simp [hwords], _, rfl, rfl⟩
    · rintro _ ⟨⟩
      rfl
    · rintro _ ⟨⟩
      rfl
  refine ⟨lexicon, other, hlexicon, hother, hmatch, ?_, htypes,
    (hasWord_iff_exists_word hlexicon .type "abc").2.1 htypes⟩
  rw [(hasWord_iff_exists_word hlexicon .keyword "abc").2.2 hother (by simp [hwords, hothers])]
  exact hmatch

end Lexicon

end ShaderTokens
