import ShaderTokens.CommandLine.Answer
import ShaderTokens.Editor.OpenDocuments
import ShaderTokens.Proofs.PlainWords

/-!
# What comes of a configuration

A configuration beside a source gives a lexicon, is refused with a message, or breaks off the
reading.  Documents in an editor and files named on a command line take the same configuration in
the same way.
-/

namespace ShaderTokens

/-- A configuration that is refused with a message: what it says is wrong, or one of its words is no
pattern. -/
inductive RefusesConfig (disk : Disk) (path : Path) : String → Prop
  | config {error : ConfigError} (h : disk.configuredOptions path = .error (.refused error)) :
      RefusesConfig disk path error.message
  | word {options : LexiconOptions} {pattern : String} {category : Category} {fault : WordFault}
      (h : disk.configuredOptions path = .ok options)
      (hlexicon : Lexicon.ofOptions options = .error (.invalidPattern pattern category fault)) :
      RefusesConfig disk path (LexiconError.invalidPattern pattern category fault).message

/-! ## Documents -/

namespace Editor.DocumentLexicon

section Options

variable {options : LexiconOptions} {lexicon : Lexicon} {error : LexiconError}

theorem ofOptions_of_eq_ok (h : Lexicon.ofOptions options = .ok lexicon) :
    ofOptions options = .ok ⟨lexicon, none⟩ := by
  unfold ofOptions
  by_cases hempty : options = {}
  · rw [hempty, Lexicon.ofOptions_empty] at h
    rw [if_pos hempty, Except.ok.inj h]
  · rw [if_neg hempty, h]

theorem ne_empty_of_eq_error (h : Lexicon.ofOptions options = .error error) : options ≠ {} := by
  rintro rfl
  rw [Lexicon.ofOptions_empty] at h
  contradiction

private theorem ofOptions_of_eq_invalidPattern {pattern : String} {category : Category}
    {fault : WordFault}
    (h : Lexicon.ofOptions options = .error (.invalidPattern pattern category fault)) :
    ofOptions options =
      .ok ⟨.standard, some (LexiconError.invalidPattern pattern category fault).message⟩ := by
  rw [ofOptions, if_neg (ne_empty_of_eq_error h), h]

theorem ofOptions_of_eq_error (h : Lexicon.ofOptions options = .error error)
    (hpattern : ∀ pattern category fault, error ≠ .invalidPattern pattern category fault) :
    ofOptions options = .error (.lexicon error) := by
  rw [ofOptions, if_neg (ne_empty_of_eq_error h), h]
  cases error with
  | invalidPattern pattern category fault => exact absurd rfl (hpattern pattern category fault)
  | emptyCategory | repetitionTooLarge | conflictingCharsets | digits => rfl

end Options

section Directory

variable {disk : Disk} {directory : Path}

theorem inDirectory_of_configuredOptions {options : LexiconOptions}
    (h : disk.configuredOptions (directory.child configName) = .ok options) :
    inDirectory disk directory = ofOptions options := by
  rw [inDirectory, h]

theorem inDirectory_of_refuses {message : String}
    (h : RefusesConfig disk (directory.child configName) message) :
    inDirectory disk directory = .ok ⟨.standard, some message⟩ := by
  cases h with
  | config h => rw [inDirectory, h]
  | word h hlexicon =>
      rw [inDirectory_of_configuredOptions h, ofOptions_of_eq_invalidPattern hlexicon]

/-- A lexicon of a document without a problem is the one that its configuration describes; with a
problem it has the words of HLSL alone. -/
theorem cases_of_inDirectory {found : DocumentLexicon}
    (h : inDirectory disk directory = .ok found) :
    (∃ options, disk.configuredOptions (directory.child configName) = .ok options ∧
      Lexicon.ofOptions options = .ok found.lexicon ∧ found.problem = none) ∨
    ∃ message, RefusesConfig disk (directory.child configName) message ∧
      found = ⟨.standard, some message⟩ := by
  have hrefused : ∀ {message}, RefusesConfig disk (directory.child configName) message →
      found = ⟨.standard, some message⟩ := by
    intro message hrefuses
    rw [inDirectory_of_refuses hrefuses] at h
    exact (Except.ok.inj h).symm
  -- A configuration comes as far as its options, then as far as a lexicon.
  cases hoptions : disk.configuredOptions (directory.child configName) with
  | error fault =>
      cases fault with
      | refused error => exact .inr ⟨_, .config hoptions, hrefused (.config hoptions)⟩
      | unreadable | digits =>
          rw [inDirectory, hoptions] at h
          contradiction
  | ok options =>
      rw [inDirectory_of_configuredOptions hoptions] at h
      cases hlexicon : Lexicon.ofOptions options with
      | ok lexicon =>
          rw [ofOptions_of_eq_ok hlexicon] at h
          obtain rfl := Except.ok.inj h
          exact .inl ⟨options, rfl, hlexicon, rfl⟩
      | error error =>
          cases error with
          | invalidPattern pattern category fault =>
              exact .inr ⟨_, .word hoptions hlexicon, hrefused (.word hoptions hlexicon)⟩
          | emptyCategory | repetitionTooLarge | conflictingCharsets | digits =>
              rw [ofOptions_of_eq_error hlexicon (by simp)] at h
              contradiction

end Directory

theorem ofPath_eq (disk : Disk) {text : String} (htext : text ≠ "") :
    ofPath disk (some text) = inDirectory disk (Path.ofString text).parent := by
  rw [ofPath, if_neg htext]

end Editor.DocumentLexicon

namespace Editor

structure Workspace.Holds (workspace : Workspace) (address path source : String) : Prop where
  path : (workspace address).path = some path
  source : (workspace address).source = .ok source

theorem OpenDocuments.holds_put (documents : OpenDocuments) (disk : Disk) (path source : String) :
    ((documents.put (Path.ofString path) source).workspace disk).Holds path path source :=
  ⟨rfl, source_put documents disk (Path.ofString path) source⟩

theorem Workspace.Holds.diagnostics_eq {workspace : Workspace} {address path source : String}
    (h : workspace.Holds address path source) {disk : Disk} {found : DocumentLexicon}
    (hfound : DocumentLexicon.ofPath disk (some path) = .ok found) :
    workspace.diagnostics disk address =
      .ok (found.problem.toList.map .ofProblem ++
        (TokenStream.mk found.lexicon source (shownName address)).diagnostics.map
          .ofDiagnostic) := by
  rw [diagnostics, stream, h.path, hfound, h.source]
  rfl

end Editor

/-! ## Command lines -/

namespace CommandLine

/-- Arguments that name a source file, and neither words nor a configuration file of their own. -/
structure Arguments.Names (arguments : Arguments) (text : String) : Prop where
  input : arguments.input = some text
  file : text ≠ "" ∧ text ≠ "-"
  config : ∀ given ∈ arguments.config, given = ""
  types : arguments.types = []
  qualifiers : arguments.qualifiers = []
  keywords : arguments.keywords = []
  builtins : arguments.builtins = []

structure Outcome.EndsInError (outcome : Outcome) (message : String) : Prop where
  status : outcome.status = 2
  output : outcome.output = ""
  errors : ∃ notes, outcome.errors = notes ++ ("error: " ++ message ++ "\n")

theorem Outcome.endsInError_withNotes (notes message : String) :
    ((Outcome.error message).withNotes notes).EndsInError message :=
  ⟨rfl, rfl, notes, rfl⟩

namespace Arguments.Names

variable {arguments : Arguments} {text : String}

theorem inputPath?_eq (h : arguments.Names text) :
    arguments.inputPath? = some (Path.ofString text) := by
  simp [inputPath?, h.input, h.file.1, h.file.2]

theorem configPath_eq (h : arguments.Names text) :
    arguments.configPath = (Path.ofString text).parent.child configName := by
  have hgiven := h.config
  cases hconfig : arguments.config with
  | none => simp [configPath, hconfig, h.inputPath?_eq]
  | some given =>
      obtain rfl : given = "" := hgiven given hconfig
      simp [configPath, hconfig, h.inputPath?_eq]

theorem options_settings (h : arguments.Names text) (configured : LexiconOptions) :
    (arguments.settings configured).options = configured := by
  simp [settings, additional, LexiconOptions.append, wordTexts, h.types, h.qualifiers, h.keywords,
    h.builtins]

theorem missesWord_eq (h : arguments.Names text) (configured : LexiconOptions)
    (category : Category) : arguments.missesWord configured category = false := by
  cases category <;>
    simp [missesWord, wordsOf, h.types, h.qualifiers, h.keywords, h.builtins]

theorem refusalMessage_eq (h : arguments.Names text) (configured : LexiconOptions)
    (error : LexiconError) : arguments.refusalMessage configured error = error.message := by
  unfold refusalMessage
  split
  · rw [h.missesWord_eq, if_neg (by simp)]
  · rfl

private theorem exists_source_eq_ok (h : arguments.Names text) {disk : Disk} {found : String}
    (hreadable : disk.text (Path.ofString text) = .ok found) (standardInput : String) :
    ∃ source, arguments.source disk standardInput = .ok source := by
  unfold source
  split
  · exact ⟨_, rfl⟩
  · rw [h.inputPath?_eq]
    dsimp only
    rw [hreadable]
    exact ⟨_, rfl⟩

theorem answer_of_refuses (h : arguments.Names text) {disk : Disk} {found message : String}
    (host : Host)
    (hrefuses : RefusesConfig disk ((Path.ofString text).parent.child configName) message)
    (hreadable : disk.text (Path.ofString text) = .ok found) (standardInput : String) :
    ∃ outcome, arguments.answer host disk standardInput = .ok outcome ∧
      outcome.EndsInError message := by
  rw [← h.configPath_eq] at hrefuses
  cases hrefuses with
  | config hconfig =>
      refine ⟨Outcome.error _, ?_, Outcome.endsInError_withNotes "" _⟩
      rw [answer, hconfig]
  | @word options pattern category fault hoptions hlexicon =>
      obtain ⟨source, hsource⟩ := h.exists_source_eq_ok hreadable standardInput
      rw [← h.options_settings options] at hlexicon
      have hreport := Settings.report_eq_error hlexicon source.text source.filename
      rw [answer, hoptions]
      simp only [h.input, Option.isNone_some, Bool.and_false, Bool.false_eq_true, if_false, hsource,
        report, hreport, h.refusalMessage_eq]
      exact ⟨_, rfl, Outcome.endsInError_withNotes _ _⟩

end Arguments.Names

end CommandLine

end ShaderTokens
