import ShaderTokens.Proofs.ExtendedTable
import ShaderTokens.Proofs.WordMatching

/-!
# Words that can be joined

Words that are accepted one by one are accepted together, and an error about a pattern names one of
the words that were given, unless an accepted word sets flags for the whole pattern.
-/

namespace ShaderTokens

open Pattern

/-! ## Joins -/

theorem joinWords_eq_joinText {words : List String} (hsome : joinOrder words ≠ []) :
    joinWords words = joinText (joinOrder words) := by
  unfold joinWords
  split
  next hempty => contradiction
  next => rfl

/-- Whether accepted words can be read together is only a matter of their flags. -/
theorem read_joinWords_cases {words : List String} (hwords : ∀ word ∈ words, IsFragment word) :
    ((∃ expression, Pattern.read (joinWords words) = .ok expression) ∧
      ∀ word ∈ words, wholeFlags word = []) ∨
    ((∃ place, Pattern.read (joinWords words) = .error (.malformed .flagsNotAtStart place)) ∧
      ∃ word ∈ words, wholeFlags word ≠ []) := by
  have hordered : ∀ word ∈ joinOrder words, IsFragment word :=
    fun word hword => hwords word (mem_joinOrder.mp hword)
  by_cases hsome : joinOrder words = []
  · refine .inl ⟨⟨⟨_, _⟩, by rw [joinWords, hsome]; rfl⟩, fun word hword => ?_⟩
    rw [← mem_joinOrder, hsome] at hword
    contradiction
  · rw [joinWords_eq_joinText hsome]
    rcases read_joinText_cases hsome hordered with
      ⟨hread, hflags⟩ | ⟨hread, word, hword, hflags⟩
    · exact .inl ⟨⟨_, hread⟩, fun word hword => hflags word (mem_joinOrder.mpr hword)⟩
    · exact .inr ⟨hread, word, mem_joinOrder.mp hword, hflags⟩

/-! ## Tables -/

theorem LexiconError.ofPattern_eq_invalidPattern {source pattern : String}
    {given category : Category} {error : PatternError} {fault : WordFault}
    (h : ofPattern source given error = .invalidPattern pattern category fault) :
    source = pattern ∧ given = category := by
  cases error with
  | malformed cause place =>
      simp only [ofPattern, invalidPattern.injEq] at h
      exact ⟨h.1, h.2.1⟩
  | repetitionTooLarge | conflictingCharsets | digits => contradiction

private theorem eq_of_checkWord_eq_error {given category : Category} {word pattern : String}
    {fault : WordFault}
    (h : checkWord given word = .error (.invalidPattern pattern category fault)) :
    word = pattern ∧ given = category := by
  unfold checkWord at h
  split at h
  · cases h
    exact ⟨rfl, rfl⟩
  · split at h
    · exact LexiconError.ofPattern_eq_invalidPattern (Except.error.inj h)
    · split at h
      · contradiction
      · cases h
        exact ⟨rfl, rfl⟩

namespace LexiconTable

variable {category : Category} {words : List String}

/-- A table cannot be built because of one word alone, or because of flags that a word sets for the
whole pattern.  Then the error names the join. -/
theorem cases_of_build_eq_error {error : LexiconError} (h : build category words = .error error) :
    (∃ word ∈ words, checkWord category word = .error error) ∨
    ((∀ word ∈ words, checkWord category word = .ok ()) ∧
      (∃ word ∈ words, wholeFlags word ≠ []) ∧
      ∃ place, error =
        .invalidPattern (joinWords words) category (.malformed .flagsNotAtStart place)) := by
  cases hchecks : words.forM (checkWord category) with
  | error found =>
      rw [build, hchecks] at h
      cases h
      exact .inl (exists_of_forM_eq_error hchecks)
  | ok =>
      have haccepted := forM_eq_ok_iff.mp hchecks
      rw [build_of_checked hchecks] at h
      rcases read_joinWords_cases fun word hword =>
        (checkWord_eq_ok_iff.mp (haccepted word hword)).2 with
        ⟨⟨expression, hread⟩, -⟩ | ⟨⟨place, hread⟩, hflagged⟩
      · rw [hread] at h
        contradiction
      · rw [hread] at h
        cases h
        exact .inr ⟨haccepted, hflagged, place, rfl⟩

theorem exists_build_eq_ok_iff (haccepted : ∀ word ∈ words, checkWord category word = .ok ()) :
    (∃ table, build category words = .ok table) ↔ ∀ word ∈ words, wholeFlags word = [] := by
  constructor
  · rintro ⟨table, htable⟩
    obtain ⟨-, expression, hread, -⟩ := eq_of_build htable
    rcases read_joinWords_cases fun word hword =>
      (checkWord_eq_ok_iff.mp (haccepted word hword)).2 with ⟨-, hflags⟩ | ⟨⟨place, herror⟩, -⟩
    · exact hflags
    · rw [herror] at hread
      contradiction
  · intro hflags
    cases hbuild : build category words with
    | ok table => exact ⟨table, rfl⟩
    | error error =>
        rcases cases_of_build_eq_error hbuild with ⟨word, hword, herror⟩ | ⟨-, hflagged, -⟩
        · rw [haccepted word hword] at herror
          contradiction
        · obtain ⟨word, hword, hsome⟩ := hflagged
          exact absurd (hflags word hword) hsome

end LexiconTable

structure IsJoinable (word : String) : Prop where
  ne_empty : word ≠ ""
  fragment : IsFragment word
  flagless : wholeFlags word = []

theorem IsJoinable.checkWord_eq {word : String} (h : IsJoinable word) (category : Category) :
    checkWord category word = .ok () :=
  checkWord_eq_ok_iff.mpr ⟨h.ne_empty, h.fragment⟩

theorem LexiconTable.exists_build_eq_ok (category : Category) {words : List String}
    (h : ∀ word ∈ words, IsJoinable word) :
    ∃ table, LexiconTable.build category words = .ok table :=
  (exists_build_eq_ok_iff fun word hword => (h word hword).checkWord_eq category).mpr
    fun word hword => (h word hword).flagless

/-! ## Lexicons -/

theorem Lexicon.exists_of_ofWords_eq_error {words : WordTable} {error : LexiconError}
    (h : ofWords words = .error error) :
    ∃ entry ∈ words, LexiconTable.build entry.1 entry.2 = .error error := by
  unfold ofWords at h
  cases htables : words.mapM fun entry => LexiconTable.build entry.1 entry.2 with
  | error found =>
      rw [htables] at h
      cases h
      exact exists_of_mapM_eq_error htables
  | ok tables =>
      rw [htables] at h
      contradiction

/-- Words that are accepted one by one are accepted together, and an error about a pattern is one
about a word that was given for its category. -/
structure AcceptsTogether (base extensions : WordTable) : Prop where
  accepted : ∀ {words}, base.extend extensions = .ok words → ∀ entry ∈ words,
    (∀ word ∈ entry.2, checkWord entry.1 word = .ok ()) →
      ∃ table, LexiconTable.build entry.1 entry.2 = .ok table
  named : ∀ {pattern category fault},
    Lexicon.build base extensions = .error (.invalidPattern pattern category fault) →
      checkWord category pattern = .error (.invalidPattern pattern category fault) ∧
        ∃ given, (category, given) ∈ base ++ extensions ∧ pattern ∈ given

def SetsNoFlags (base extensions : WordTable) : Prop :=
  ∀ {words}, base.extend extensions = .ok words → ∀ entry ∈ words,
    (∀ word ∈ entry.2, checkWord entry.1 word = .ok ()) → ∀ word ∈ entry.2, wholeFlags word = []

private theorem checkWord_of_build_eq_error {base extensions : WordTable}
    (hflags : SetsNoFlags base extensions) {pattern : String} {category : Category}
    {fault : WordFault}
    (h : Lexicon.build base extensions = .error (.invalidPattern pattern category fault)) :
    checkWord category pattern = .error (.invalidPattern pattern category fault) ∧
      ∃ given, (category, given) ∈ base ++ extensions ∧ pattern ∈ given := by
  unfold Lexicon.build at h
  cases hextended : base.extend extensions with
  | error error =>
      rw [hextended] at h
      cases h
      obtain ⟨missing, hmissing⟩ := WordTable.eq_of_extend_eq_error hextended
      contradiction
  | ok words =>
      rw [hextended] at h
      obtain ⟨entry, hentry, hbuild⟩ := Lexicon.exists_of_ofWords_eq_error h
      rcases LexiconTable.cases_of_build_eq_error hbuild with
        ⟨word, hword, herror⟩ | ⟨haccepted, ⟨word, hword, hflagged⟩, -⟩
      · obtain ⟨rfl, rfl⟩ := eq_of_checkWord_eq_error herror
        exact ⟨herror, WordTable.exists_of_mem_extend hextended hentry hword⟩
      · exact absurd (hflags hextended entry hentry haccepted word hword) hflagged

/-- Only flags for the whole pattern keep words from being accepted together. -/
theorem acceptsTogether_iff (base extensions : WordTable) :
    AcceptsTogether base extensions ↔ SetsNoFlags base extensions := by
  constructor
  · intro h words hwords entry hentry haccepted
    exact (LexiconTable.exists_build_eq_ok_iff haccepted).mp
      (h.accepted hwords entry hentry haccepted)
  · intro hflags
    refine ⟨fun hwords entry hentry haccepted => ?_, checkWord_of_build_eq_error hflags⟩
    exact (LexiconTable.exists_build_eq_ok_iff haccepted).mpr
      (hflags hwords entry hentry haccepted)

private theorem read_joined_anyCase :
    Pattern.read "\\b(?:(?:(?i)foo))\\b" =
      .error (.malformed .flagsNotAtStart (some ⟨8, none⟩)) := by
  have hread : (Pattern.read "\\b(?:(?:(?i)foo))\\b").map (fun _ => ()) =
      .error (.malformed .flagsNotAtStart (some ⟨8, none⟩)) := by
    decide +kernel
  generalize Pattern.read "\\b(?:(?:(?i)foo))\\b" = result at hread ⊢
  cases result with
  | ok expression => contradiction
  | error error => exact congrArg Except.error (Except.error.inj hread)

/-- A word for lexemes in any case of letters is accepted on its own, but the error of its category
names the join, which nobody has given. -/
theorem not_acceptsTogether_anyCase :
    checkWord .type "(?i)foo" = .ok () ∧
      Lexicon.build [(.type, ["(?i)foo"])] [] = .error (.invalidPattern "\\b(?:(?:(?i)foo))\\b"
        .type (.malformed .flagsNotAtStart (some ⟨8, none⟩))) ∧
      ¬ AcceptsTogether [(.type, ["(?i)foo"])] [] := by
  have hword : checkWord .type "(?i)foo" = .ok () := by decide +kernel
  have hjoin : joinWords ["(?i)foo"] = "\\b(?:(?:(?i)foo))\\b" := by
    rw [joinWords, joinOrder, show ["(?i)foo"].eraseDups = ["(?i)foo"] from rfl,
      List.mergeSort_singleton]
    decide +kernel
  have hbuild : Lexicon.build [(.type, ["(?i)foo"])] [] = .error (.invalidPattern
      "\\b(?:(?:(?i)foo))\\b" .type (.malformed .flagsNotAtStart (some ⟨8, none⟩))) := by
    rw [Lexicon.build_singleton,
      LexiconTable.build_of_checked (forM_eq_ok_iff.mpr (by simpa using hword)), hjoin,
      read_joined_anyCase]
    rfl
  refine ⟨hword, hbuild, fun h => ?_⟩
  obtain ⟨-, given, hgiven, hpattern⟩ := h.named hbuild
  obtain rfl : given = ["(?i)foo"] := by simpa using hgiven
  simp at hpattern

end ShaderTokens
