import Mathlib.Data.List.TakeWhile
import ShaderTokens.Lexicon.Options
import ShaderTokens.Proofs.JoinableWords

/-!
# The words of HLSL can be read

Most words of HLSL are names, and the others are names that one more digit may follow.  Reading such
a word comes to its end and meets no flags, so such words can be joined and there is a lexicon of
the words of HLSL, alone or with more words of that kind.
-/

namespace ShaderTokens

namespace Pattern

open PatternSymbol Reader

/-! ## Optional digits -/

section Digits

variable {progress : Progress} {rest : List PatternSymbol}

/-- Where a fragment may end: behind it the text is over or a group is closed. -/
def EndsFragment (rest : List PatternSymbol) : Prop :=
  ∀ symbol ∈ rest.head?, symbol = plain ')'

theorem EndsFragment.ne (h : EndsFragment rest) : rest ≠ [loneBackslash] := by
  rintro rfl
  cases h loneBackslash rfl

private theorem run_readGreed (hrest : EndsFragment rest) :
    readGreed.run rest = .ok (.greedy, rest) := by
  cases rest with
  | nil => rfl
  | cons symbol rest =>
      obtain rfl := hrest symbol rfl
      rfl

inductive DigitSet : List PatternSymbol → List SetItem → Prop
  | decimal : DigitSet [plain '0', plain '-', plain '9'] [.range 48 57]
  | octal : DigitSet [plain '0', plain '-', plain '7'] [.range 48 55]
  | sizes : DigitSet [plain '2', plain '3', plain '4'] [.range 50 50, .range 51 51, .range 52 52]

theorem DigitSet.run_readSet {members : List PatternSymbol} {items : List SetItem}
    (h : DigitSet members items) (here rest : List PatternSymbol) :
    (readSet here).run (members ++ plain ']' :: plain '?' :: rest) =
      .ok ((items, false), plain '?' :: rest) := by
  cases h with
  | decimal => rfl
  | octal => rfl
  | sizes => rfl

private theorem readItem_bracket (hmode : progress.frame.mode = {}) (here : List PatternSymbol) :
    readItem progress here '[' = (do
      let (items, negated) ← readSet here
      return progress.addItem (progress.frame.charSet items negated) .other) := by
  simp only [readItem, hmode]
  rfl

private theorem readItem_questionMark (hmode : progress.frame.mode = {}) {item : Item}
    {items : List Item} (hitems : progress.frame.items = item :: items) (hkind : item.kind = .other)
    (here : List PatternSymbol) :
    readItem progress here '?' = (do
      let greed ← readGreed
      let pattern := .repeated item.pattern 0 (some 1) greed
      return progress.setFrame
        { progress.frame with items := ⟨pattern, .repetition⟩ :: items }) := by
  simp only [readItem, hmode, readQuantifier, applyQuantifier, pure_bind, hitems, hkind]
  rfl

theorem readsOver_optionalDigit (hplain : progress.IsPlain) {members : List PatternSymbol}
    {items : List SetItem} (hset : DigitSet members items) (hrest : EndsFragment rest) :
    ReadsOver progress (plain '[' :: (members ++ plain ']' :: plain '?' :: rest)) rest := by
  have hmode := hplain.frame.mode
  have hmembers : members ++ plain ']' :: plain '?' :: rest ≠ [loneBackslash] := by
    cases hset <;> simp
  let digits := progress.addItem (progress.frame.charSet items false) .other
  have hdigits : (readStep progress).run
      (plain '[' :: (members ++ plain ']' :: plain '?' :: rest)) =
        .ok (.inl digits, plain '?' :: rest) := by
    refine run_readStep_plain (by decide) (by decide) hmembers ?_
    rw [readItem_bracket hmode, run_bind_of_eq_ok (hset.run_readSet _ rest)]
    rfl
  let optional : Item :=
    ⟨.repeated (progress.frame.charSet items false) 0 (some 1) .greedy, .repetition⟩
  have hoptional : (readStep digits).run (plain '?' :: rest) =
      .ok (.inl (progress.setFrame
        { progress.frame with items := optional :: progress.frame.items }), rest) := by
    refine run_readStep_plain (by decide) (by decide) hrest.ne ?_
    rw [readItem_questionMark (show digits.frame.mode = {} from hmode) rfl rfl,
      run_bind_of_eq_ok (run_readGreed hrest)]
    rfl
  refine ⟨_, .step hdigits ?_ (.of_step hoptional), hplain.setFrame ?_, rfl⟩
  · simp
    omega
  · exact { hplain.frame with items := List.forall_mem_cons.mpr ⟨rfl, hplain.frame.items⟩ }

end Digits

/-! ## Words -/

def digitEndings : List (List Char) :=
  [['[', '0', '-', '9', ']', '?'], ['[', '0', '-', '7', ']', '?'],
    ['[', '2', '3', '4', ']', '?']]

def IsPlainWord (word : String) : Prop :=
  ∃ name ending, word.toList = name ++ ending ∧ name ≠ [] ∧
    (∀ char ∈ name, isIdentifierPart char = true) ∧ (ending = [] ∨ ending ∈ digitEndings)

private theorem readsOver_ending {ending : List Char} (h : ending = [] ∨ ending ∈ digitEndings)
    {progress : Progress} (hplain : progress.IsPlain) {rest : List PatternSymbol}
    (hrest : EndsFragment rest) : ReadsOver progress (ofText ending ++ rest) rest := by
  simp only [digitEndings, List.mem_cons, List.not_mem_nil, or_false] at h
  rcases h with rfl | rfl | rfl | rfl
  · exact .refl hplain rest
  · exact readsOver_optionalDigit hplain .decimal hrest
  · exact readsOver_optionalDigit hplain .octal hrest
  · exact readsOver_optionalDigit hplain .sizes hrest

namespace IsPlainWord

variable {word : String}

theorem readsOver (h : IsPlainWord word) {progress : Progress} (hplain : progress.IsPlain)
    {rest : List PatternSymbol} (hrest : EndsFragment rest) :
    ReadsOver progress (ofText word.toList ++ rest) rest := by
  obtain ⟨name, ending, hword, -, hname, hending⟩ := h
  have hne : ofText ending ++ rest ≠ [loneBackslash] := by
    simp only [digitEndings, List.mem_cons, List.not_mem_nil, or_false] at hending
    rcases hending with rfl | rfl | rfl | rfl
    · exact hrest.ne
    · simp [ofText]
    · simp [ofText]
    · simp [ofText]
  have hliteral := fun char hchar => isLiteral_of_isIdentifierPart (hname char hchar)
  rw [hword, ofText_append_literals hliteral, List.append_assoc]
  refine ReadsOver.trans (readsOver_literals hliteral hplain hne) ?_
  intro following hfollowing
  exact readsOver_ending hending hfollowing hrest

theorem ne_empty (h : IsPlainWord word) : word ≠ "" := by
  obtain ⟨name, ending, hword, hname, -, -⟩ := h
  rintro rfl
  exact hname (List.append_eq_nil_iff.mp hword.symm).1

theorem ofText_ne (h : IsPlainWord word) : ofText word.toList ≠ [loneBackslash] := by
  obtain ⟨name, ending, hword, hsome, hname, -⟩ := h
  obtain ⟨char, name, rfl⟩ := List.exists_cons_of_ne_nil hsome
  rw [hword, ofText_append_literals fun char hchar =>
    isLiteral_of_isIdentifierPart (hname char hchar)]
  simp

end IsPlainWord

theorem IsPlainWord.isJoinable {word : String} (h : IsPlainWord word) : IsJoinable word := by
  have hend : EndsFragment [] := by simp [EndsFragment]
  have hread := h.readsOver isPlain_start hend
  rw [List.append_nil] at hread
  obtain ⟨finished, hfinished, hgroups, hflags⟩ := exists_reads_of_readsOver h.ofText_ne hread
  obtain ⟨hsymbols, hpattern⟩ := hfinished.read_eq_ok
  refine ⟨h.ne_empty, ⟨_, hpattern, ?_⟩, ?_⟩
  · rw [hgroups]
    rfl
  · rw [wholeFlags, hsymbols]
    exact hflags

end Pattern

open Pattern

/-! ## The words of HLSL -/

theorem isPlainWord_ofList {chars : List Char}
    (h : (!(chars.takeWhile isIdentifierPart).isEmpty &&
      ([] :: digitEndings).contains (chars.dropWhile isIdentifierPart)) = true) :
    IsPlainWord (String.ofList chars) := by
  rw [Bool.and_eq_true] at h
  refine ⟨chars.takeWhile isIdentifierPart, chars.dropWhile isIdentifierPart, ?_, ?_, ?_, ?_⟩
  · rw [String.toList_ofList, List.takeWhile_append_dropWhile]
  · simpa using h.1
  · exact fun char hchar => List.mem_takeWhile_imp hchar
  · simpa using h.2

def IsName (word : String) : Prop :=
  word ≠ "" ∧ ∀ char ∈ word.toList, isIdentifierPart char = true

theorem IsName.isPlainWord {word : String} (h : IsName word) : IsPlainWord word := by
  refine ⟨word.toList, [], (List.append_nil _).symm, ?_, h.2, .inl rfl⟩
  simpa using h.1

theorem isName_ofList {chars : List Char}
    (h : (!chars.isEmpty && chars.all isIdentifierPart) = true) : IsName (String.ofList chars) := by
  rw [Bool.and_eq_true] at h
  constructor
  · intro hempty
    simp_all
  · rw [String.toList_ofList]
    exact List.all_eq_true.mp h.2

theorem IsName.append {word other : String} (h : IsName word) (hother : IsName other) :
    IsName (word ++ other) := by
  constructor
  · intro hempty
    exact h.1 (String.append_eq_empty_iff.mp hempty).1
  · intro char hchar
    rw [String.toList_append, List.mem_append] at hchar
    exact hchar.elim (h.2 char) (hother.2 char)

private theorem isName_scalarTypes : ∀ word ∈ Words.scalarTypes, IsName word := by
  unfold Words.scalarTypes
  repeat refine List.forall_mem_cons.mpr ⟨isName_ofList rfl, ?_⟩
  exact List.forall_mem_nil _

private theorem isName_expandScalarTypes {scalars : List String}
    (h : ∀ scalar ∈ scalars, IsName scalar) :
    ∀ word ∈ Words.expandScalarTypes scalars, IsName word := by
  have hsizes : ∀ size ∈ ["1", "2", "3", "4"], IsName size := by
    repeat refine List.forall_mem_cons.mpr ⟨isName_ofList rfl, ?_⟩
    exact List.forall_mem_nil _
  have hcross : IsName "x" := isName_ofList rfl
  intro word hword
  obtain ⟨scalar, hscalar, hword⟩ := List.mem_flatMap.mp hword
  have hname := h scalar hscalar
  rcases List.mem_append.mp hword with hvector | hmatrix
  · rcases List.mem_cons.mp hvector with rfl | hvector
    · exact hname
    · obtain ⟨size, hsize, rfl⟩ := List.mem_map.mp hvector
      exact hname.append (hsizes size hsize)
  · obtain ⟨rows, hrows, hmatrix⟩ := List.mem_flatMap.mp hmatrix
    obtain ⟨columns, hcolumns, rfl⟩ := List.mem_map.mp hmatrix
    exact ((hname.append (hsizes rows hrows)).append hcross).append (hsizes columns hcolumns)

private theorem isPlainWord_hlslWords :
    ∀ entry ∈ hlslWords, ∀ word ∈ entry.2, IsPlainWord word := by
  have hscalars : ∀ word ∈ Words.expandScalarTypes Words.scalarTypes, IsPlainWord word :=
    fun word hword => (isName_expandScalarTypes isName_scalarTypes word hword).isPlainWord
  simp only [hlslWords, List.forall_mem_cons, List.forall_mem_append]
  refine ⟨⟨hscalars, ?_⟩, ?_, ⟨⟨?_, ?_⟩, ?_⟩, ?_, ⟨?_, ?_⟩, ?_, ?_, ?_, ?_, ?_, ?_, ?_,
    List.forall_mem_nil _⟩
  all_goals
    repeat refine List.forall_mem_cons.mpr ⟨isPlainWord_ofList rfl, ?_⟩
    exact List.forall_mem_nil _

/-! ## Lexicons of joinable words -/

theorem isJoinable_hlslWords : ∀ entry ∈ hlslWords, ∀ word ∈ entry.2, IsJoinable word :=
  fun entry hentry word hword => (isPlainWord_hlslWords entry hentry word hword).isJoinable

theorem WordTable.isJoinable_of_mem_extend {table extensions words : WordTable}
    (hwords : table.extend extensions = .ok words)
    (htable : ∀ entry ∈ table, ∀ word ∈ entry.2, IsJoinable word)
    (hadded : ∀ extension ∈ extensions, ∀ word ∈ extension.2, IsJoinable word) :
    ∀ entry ∈ words, ∀ word ∈ entry.2, IsJoinable word := by
  intro entry hentry word hword
  obtain ⟨given, hgiven, hin⟩ := exists_of_mem_extend hwords hentry hword
  rcases List.mem_append.mp hgiven with hlisted | hextended
  · exact htable _ hlisted word hin
  · exact hadded _ hextended word hin

theorem LexiconOptions.category_of_mem_extensions (options : LexiconOptions) :
    ∀ extension ∈ options.extensions, extension.1 ∈ hlslWords.map Prod.fst := by
  simp [extensions, hlslWords]

namespace Lexicon

theorem exists_ofWords_eq_ok {words : WordTable}
    (h : ∀ entry ∈ words, ∀ word ∈ entry.2, IsJoinable word) :
    ∃ lexicon, ofWords words = .ok lexicon := by
  obtain ⟨tables, htables⟩ := exists_mapM_eq_ok fun entry hentry =>
    LexiconTable.exists_build_eq_ok entry.1 (h entry hentry)
  refine ⟨⟨tables⟩, ?_⟩
  rw [ofWords, htables]
  rfl

theorem build_of_forall_eq_nil (table : WordTable) {extensions : WordTable}
    (h : ∀ extension ∈ extensions, extension.2 = []) : build table extensions = ofWords table := by
  rw [build, WordTable.extend_of_forall_eq_nil h]
  rfl

@[simp] theorem ofWords_hlslWords : ofWords hlslWords = .ok standard := by
  obtain ⟨lexicon, hlexicon⟩ := exists_ofWords_eq_ok isJoinable_hlslWords
  rw [standard, build_of_forall_eq_nil hlslWords (List.forall_mem_nil _), hlexicon]
  rfl

@[simp] theorem ofOptions_empty : ofOptions {} = .ok standard := by
  rw [ofOptions, build_of_forall_eq_nil, ofWords_hlslWords]
  simp [LexiconOptions.extensions]

theorem exists_build_eq_ok {base extensions : WordTable}
    (hcategories : ∀ extension ∈ extensions, extension.1 ∈ base.map Prod.fst)
    (hbase : ∀ entry ∈ base, ∀ word ∈ entry.2, IsJoinable word)
    (hadded : ∀ extension ∈ extensions, ∀ word ∈ extension.2, IsJoinable word) :
    ∃ lexicon, build base extensions = .ok lexicon := by
  obtain ⟨words, hwords⟩ := WordTable.exists_extend_eq_ok hcategories
  obtain ⟨lexicon, hlexicon⟩ :=
    exists_ofWords_eq_ok (WordTable.isJoinable_of_mem_extend hwords hbase hadded)
  refine ⟨lexicon, ?_⟩
  rw [build, hwords]
  exact hlexicon

theorem exists_ofOptions_eq_ok {options : LexiconOptions}
    (h : ∀ extension ∈ options.extensions, ∀ word ∈ extension.2, IsJoinable word) :
    ∃ lexicon, ofOptions options = .ok lexicon :=
  exists_build_eq_ok options.category_of_mem_extensions isJoinable_hlslWords h

end Lexicon

end ShaderTokens