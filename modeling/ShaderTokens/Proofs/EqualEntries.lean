import ShaderTokens.Proofs.BuildOutcome
import ShaderTokens.Proofs.SharedCursor

/-!
# Lexicons with equal entries

Lexicons compare equal when they list the same entries.  The entries do not show which categories
have no words, nor which words were added to a base, and neither makes a difference: a category with
words has one matcher that comes of them, and a category without words matches nothing, whether it
is listed or not.  So equal lexicons classify every lexeme alike and cut every source into the same
tokens.
-/

namespace ShaderTokens

/-! ## Words from entries -/

namespace Lexicon

@[simp] theorem entries_cons (table : LexiconTable) (others : List LexiconTable) :
    entries ⟨table :: others⟩ =
      (table.words.map fun word => ⟨word, table.category⟩) ++ entries ⟨others⟩ := rfl

theorem words_of_notMem {lexicon : Lexicon} {category : Category}
    (h : category ∉ lexicon.categories) : lexicon.words category = [] := by
  have habsent : lexicon.table? category = none := by
    rw [table?, List.find?_eq_none]
    intro table htable hcategory
    exact h (List.mem_map.mpr ⟨table, htable, of_decide_eq_true hcategory⟩)
  rw [words, habsent]
  rfl

theorem words_eq_map_filter_entries {lexicon : Lexicon} (hdistinct : lexicon.categories.Nodup)
    (category : Category) :
    lexicon.words category =
      (lexicon.entries.filter (·.category = category)).map LexiconEntry.pattern := by
  obtain ⟨tables⟩ := lexicon
  induction tables with
  | nil => rfl
  | cons table others ih =>
      obtain ⟨hfresh, hdistinct⟩ := List.nodup_cons.mp hdistinct
      rw [words_cons, entries_cons, List.filter_append, List.map_append, ← ih hdistinct]
      by_cases hcategory : table.category = category
      · -- no later table lists the category again
        have hothers : words ⟨others⟩ category = [] := words_of_notMem (hcategory ▸ hfresh)
        simp [hcategory, hothers, List.filter_map, Function.comp_def]
      · simp [hcategory, List.filter_map, Function.comp_def]

/-! ## Matchers from words -/

variable {base extensions base' extensions' : WordTable} {lexicon other : Lexicon}
  {category : Category}

theorem exists_table?_eq_some (h : build base extensions = .ok lexicon)
    (hsome : lexicon.words category ≠ []) :
    ∃ table, LexiconTable.build category (lexicon.words category) = .ok table ∧
      lexicon.table? category = some table := by
  cases htable : lexicon.table? category with
  | none => simp [words, htable] at hsome
  | some table =>
      obtain ⟨⟨listed, given⟩, hbuild⟩ := exists_build_of_table? h htable
      obtain ⟨-, expression, -, rfl⟩ := LexiconTable.eq_of_build hbuild
      have hcategory : listed = category := by simpa using List.find?_some htable
      subst hcategory
      exact ⟨_, by simpa [words, htable] using hbuild, rfl⟩

private theorem table?_eq_of_words_eq (h : build base extensions = .ok lexicon)
    (hother : build base' extensions' = .ok other)
    (hwords : lexicon.words category = other.words category)
    (hsome : lexicon.words category ≠ []) :
    lexicon.table? category = other.table? category := by
  obtain ⟨table, hbuild, htable⟩ := exists_table?_eq_some h hsome
  obtain ⟨table', hbuild', htable'⟩ := exists_table?_eq_some hother (hwords ▸ hsome)
  rw [hwords, hbuild'] at hbuild
  rw [htable, htable', Except.ok.inj hbuild]

private theorem hasWord_eq_of_words_eq (h : build base extensions = .ok lexicon)
    (hother : build base' extensions' = .ok other)
    (hwords : lexicon.words category = other.words category) (lexeme : String) :
    lexicon.hasWord category lexeme = other.hasWord category lexeme := by
  rw [hasWord_eq h, hasWord_eq hother, hwords]

end Lexicon

/-! ## Lexemes and tokens from words -/

def Lexicon.SameWords (lexicon other : Lexicon) : Prop :=
  ∀ category lexeme, lexicon.hasWord category lexeme = other.hasWord category lexeme

namespace Lexicon.SameWords

variable {lexicon other : Lexicon} (h : lexicon.SameWords other)
include h

theorem classify_eq (lexeme : String) (preprocessor : Bool) :
    lexicon.classify lexeme preprocessor = other.classify lexeme preprocessor := by
  simp only [classify, h _ lexeme]

theorem wordCategory_eq (context : LineContext) (word : String) :
    Lexeme.wordCategory lexicon context word = Lexeme.wordCategory other context word := by
  -- on a preprocessor line the operators are looked up before anything is classified
  cases context with
  | blank => exact h.classify_eq word false
  | code => exact h.classify_eq word false
  | directiveName => exact h.classify_eq word true
  | directive => rw [Lexeme.wordCategory, Lexeme.wordCategory, h, h.classify_eq]

theorem read_eq (context : LineContext) (first : Char) (others : List Char) :
    Lexeme.read lexicon context first others = Lexeme.read other context first others := by
  simp only [Lexeme.read, Lexeme.word, h.wordCategory_eq]

theorem cut {context : LineContext} {chars : List Char} {lexemes : List Lexeme}
    (hcut : Cut lexicon context chars lexemes) : Cut other context chars lexemes := by
  induction hcut with
  | done context => exact .done context
  | next hread htext _ ih => exact .next ((h.read_eq _ _ _).symm.trans hread) htext ih

theorem scan_eq (source filename : String) :
    (TokenStream.mk lexicon source filename).scan =
      (TokenStream.mk other source filename).scan := by
  have hlexemes := (h.cut (TokenStream.mk lexicon source filename).cut).eq_lexemes
  rw [TokenStream.scan_eq_placed, TokenStream.scan_eq_placed, hlexemes]
  rfl

end Lexicon.SameWords

/-! ## Turns from tokens -/

namespace SharedSession

variable {stream other : TokenStream}

private theorem step_eq_of_scan_eq (hscan : stream.scan = other.scan) (asked : Nat)
    (names : List String) (operation : ScanOperation) :
    ∃ answer next known,
      step ⟨stream.scanAfter asked, names⟩ operation = (answer, ⟨stream.scanAfter next, known⟩) ∧
      step ⟨other.scanAfter asked, names⟩ operation = (answer, ⟨other.scanAfter next, known⟩) := by
  have hfaults : ∀ count, (stream.scanAfter count).faults = (other.scanAfter count).faults := by
    intro count
    rw [TokenStream.scanAfter, TokenStream.scanAfter, hscan]
  have htokens : other.allTokens = stream.allTokens := by
    rw [TokenStream.allTokens, TokenStream.allTokens, hscan]
  cases operation with
  | start name => exact ⟨_, asked, name :: names, rfl, by rw [step, hfaults]⟩
  | pull name count =>
      by_cases hname : names.contains name = true
      · refine ⟨.handed ((stream.allTokens.drop asked).take count)
          (stream.scanAfter (asked + count)).faults, asked + count, names, ?_, ?_⟩
        · rw [step, if_pos hname, stream.pull_scanAfter]
        · rw [step, if_pos hname, other.pull_scanAfter, htokens, hfaults]
      · refine ⟨.noIterator, asked, names, ?_, ?_⟩
        · rw [step, if_neg hname]
        · rw [step, if_neg hname]

private theorem log_eq_of_scan_eq (hscan : stream.scan = other.scan) (asked : Nat)
    (names : List String) (operations : List ScanOperation) :
    log ⟨stream.scanAfter asked, names⟩ operations =
      log ⟨other.scanAfter asked, names⟩ operations := by
  induction operations generalizing asked names with
  | nil => rfl
  | cons operation operations ih =>
      obtain ⟨answer, next, known, hstep, hother⟩ :=
        step_eq_of_scan_eq hscan asked names operation
      rw [log, log, hstep, hother]
      exact congrArg ((operation, answer) :: ·) (ih next known)

end SharedSession

namespace Lexicon

/-- Whatever the turns of the iterators, they are handed the same tokens and find the same
reports. -/
theorem SameWords.log_eq {lexicon other : Lexicon} (h : lexicon.SameWords other)
    (source : String) (operations : List ScanOperation) :
    (MachineSession.ofSource lexicon source).log operations =
      (MachineSession.ofSource other source).log operations := by
  have hshared := SharedSession.log_eq_of_scan_eq (h.scan_eq source "") 0 [] operations
  rw [TokenStream.scanAfter_zero, TokenStream.scanAfter_zero] at hshared
  rw [(MachineSession.Refines.ofSource lexicon source).log,
    (MachineSession.Refines.ofSource other source).log]
  exact congrArg Except.ok hshared

/-! ## Equal lexicons -/

/-- Lexicons that can stand for each other: whatever is asked about a category with words, a lexeme
or a source, both give one answer. -/
structure Interchangeable (lexicon other : Lexicon) : Prop where
  words : ∀ category, lexicon.words category = other.words category
  table? : ∀ category, lexicon.words category ≠ [] →
    lexicon.table? category = other.table? category
  hasWord : ∀ category lexeme, lexicon.hasWord category lexeme = other.hasWord category lexeme
  classify : ∀ lexeme preprocessor,
    lexicon.classify lexeme preprocessor = other.classify lexeme preprocessor
  tokens : ∀ source filename includeWhitespace,
    (TokenStream.mk lexicon source filename).tokens includeWhitespace =
      (TokenStream.mk other source filename).tokens includeWhitespace
  diagnostics : ∀ source filename,
    (TokenStream.mk lexicon source filename).diagnostics =
      (TokenStream.mk other source filename).diagnostics
  log : ∀ source operations,
    (MachineSession.ofSource lexicon source).log operations =
      (MachineSession.ofSource other source).log operations

variable {base extensions base' extensions' : WordTable} {lexicon other : Lexicon}

/-- Lexicons with equal entries can stand for each other, whatever they were built from.  That a
base lists no category twice holds of every table made of pairs (`WordTable.nodup_ofPairs`). -/
theorem interchangeable_of_entries_eq (hbase : (base.map Prod.fst).Nodup)
    (hbase' : (base'.map Prod.fst).Nodup) (h : build base extensions = .ok lexicon)
    (hother : build base' extensions' = .ok other) (hentries : lexicon.entries = other.entries) :
    Interchangeable lexicon other := by
  have hdistinct : lexicon.categories.Nodup := (lists_of_build hbase h).categories ▸ hbase
  have hdistinct' : other.categories.Nodup := (lists_of_build hbase' hother).categories ▸ hbase'
  have hwords : ∀ category, lexicon.words category = other.words category := by
    intro category
    rw [words_eq_map_filter_entries hdistinct, words_eq_map_filter_entries hdistinct', hentries]
  have hsame : lexicon.SameWords other :=
    fun category => hasWord_eq_of_words_eq h hother (hwords category)
  constructor
  case words => exact hwords
  case table? => exact fun category => table?_eq_of_words_eq h hother (hwords category)
  case hasWord => exact hsame
  case classify => exact hsame.classify_eq
  case tokens =>
    intro source filename includeWhitespace
    simp only [TokenStream.tokens, TokenStream.allTokens, hsame.scan_eq]
  case diagnostics =>
    intro source filename
    simp only [TokenStream.diagnostics, hsame.scan_eq]
    rfl
  case log => exact hsame.log_eq

theorem interchangeable_of_entries_eq_half :
    let listed : WordTable := [(.type, ["half"]), (.preprocessorOperator, ["defined"])]
    let bare : WordTable := [(.keyword, []), (.type, []), (.preprocessorOperator, ["defined"])]
    (listed.map Prod.fst).Nodup ∧ (bare.map Prod.fst).Nodup ∧
      ∃ lexicon other, build listed [] = .ok lexicon ∧
        build bare [(.type, ["half"])] = .ok other ∧
        lexicon.entries = other.entries ∧ lexicon.categories ≠ other.categories ∧
        Interchangeable lexicon other := by
  intro listed bare
  have hlisted : (listed.map Prod.fst).Nodup := by decide
  have hbare : (bare.map Prod.fst).Nodup := by decide
  have hhalf : IsJoinable "half" := (isPlainWord_ofList rfl).isJoinable
  have hdefined : IsJoinable "defined" := (isPlainWord_ofList rfl).isJoinable
  obtain ⟨lexicon, hlexicon⟩ : ∃ lexicon, build listed [] = .ok lexicon := by
    apply exists_build_eq_ok <;> simp [listed, hhalf, hdefined]
  obtain ⟨other, hother⟩ : ∃ other, build bare [(.type, ["half"])] = .ok other := by
    apply exists_build_eq_ok <;> simp [bare, hhalf, hdefined]
  obtain ⟨hcategories, hwords, hentries⟩ := lists_of_build hlisted hlexicon
  obtain ⟨hcategories', hwords', hentries'⟩ := lists_of_build hbare hother
  have hequal : lexicon.entries = other.entries := by
    rw [hentries, hentries', hcategories, hcategories']
    simp only [hwords, hwords']
    rfl
  have hne : lexicon.categories ≠ other.categories := by
    rw [hcategories, hcategories']
    decide
  exact ⟨hlisted, hbare, lexicon, other, hlexicon, hother, hequal, hne,
    interchangeable_of_entries_eq hlisted hbare hlexicon hother hequal⟩

end Lexicon

end ShaderTokens
