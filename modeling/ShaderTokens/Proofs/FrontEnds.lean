import Mathlib.Data.List.Forall2
import ShaderTokens.Proofs.ConfiguredLexicon
import ShaderTokens.Proofs.OpenConstruct

/-!
# The command line and the editor agree

Both take the lexicon of a source from the configuration beside it, though each in its own way.
They have the same words, warn of the same places, and say the same about a configuration that is
refused.
-/

namespace ShaderTokens

open CommandLine Editor

/-! ## Reports and what is shown of them -/

def reportHead (filename message line column : String) : String :=
  "warning: " ++ message ++ "\n" ++ Diagnostic.spaces (line.length + 1) ++ "--> " ++
    filename ++ ":" ++ line ++ ":" ++ column ++ "\n"

def PrintsAt (filename : String) (shown : DocumentDiagnostic) (printed : String) : Prop :=
  ∃ rest, printed =
    reportHead filename shown.message (toString (shown.start.line + 1))
      (toString (shown.start.character + 1)) ++ rest

def reportExcerpt (number : String) (line : List Char) (indent carets : Nat) : String :=
  Diagnostic.spaces (number.length + 1) ++ "|\n" ++ number ++ " | " ++ String.ofList line ++ "\n" ++
    Diagnostic.spaces (number.length + 1) ++ "| " ++ Diagnostic.spaces indent ++
    String.ofList (List.replicate carets '^')

theorem Diagnostic.format_eq (diagnostic : Diagnostic) (filename : String) :
    diagnostic.format filename =
      reportHead filename diagnostic.message (toString diagnostic.position.line)
          (toString diagnostic.position.column) ++
        reportExcerpt (toString diagnostic.position.line) diagnostic.sourceLine
          (diagnostic.position.column - 1).toNat
          (max 1 (diagnostic.sourceLine.length - diagnostic.position.column + 1)).toNat := by
  unfold format reportHead reportExcerpt
  dsimp only
  generalize toString diagnostic.position.line = line
  generalize toString diagnostic.position.column = column
  generalize spaces (line.length + 1) = margin
  generalize String.ofList diagnostic.sourceLine = shown
  generalize spaces (diagnostic.position.column - 1).toNat = indent
  generalize String.ofList (List.replicate _ '^') = carets
  simp only [String.append_assoc]

theorem Diagnostic.format_rename (diagnostic : Diagnostic) (name filename : String) :
    format { diagnostic with filename := name } filename = diagnostic.format filename := by
  unfold format sourceLine position
  dsimp only

private theorem printsAt_format (diagnostic : Diagnostic) (filename : String) :
    PrintsAt filename (.ofDiagnostic diagnostic) (diagnostic.format filename ++ "\n") := by
  have hline : (DocumentDiagnostic.ofDiagnostic diagnostic).start.line + 1 =
      diagnostic.position.line := Int.sub_add_cancel _ _
  have hcolumn : (DocumentDiagnostic.ofDiagnostic diagnostic).start.character + 1 =
      diagnostic.position.column := Int.sub_add_cancel _ _
  rw [PrintsAt, hline, hcolumn, diagnostic.format_eq, String.append_assoc]
  exact ⟨_, rfl⟩

theorem TokenStream.diagnostics_rename (lexicon : Lexicon) (source first second : String) :
    (TokenStream.mk lexicon source second).diagnostics =
      (TokenStream.mk lexicon source first).diagnostics.map
        ({ · with filename := second }) := by
  unfold diagnostics report
  rw [List.map_filterMap]
  apply List.filterMap_congr
  intro scanned _
  unfold ScannedToken.diagnostic?
  rw [Option.map_map]
  rfl

/-- A program that has written a report for each warning that an editor shows, and nothing else
behind the summary of its lexicon, and whose status tells whether there was any. -/
structure ReportsAlike (filename summary : String) (outcome : Outcome)
    (published : List DocumentDiagnostic) : Prop where
  status_le : outcome.status ≤ 1
  status_iff : outcome.status = 1 ↔ ∃ shown ∈ published, shown.severity = .warning
  errors : ∃ reports, outcome.errors = summary ++ String.join reports ∧
    List.Forall₂ (PrintsAt filename) (published.filter (·.severity = .warning)) reports

private theorem reportsAlike_reportWith {settings : Settings}
    (hclassified : settings.classified = []) (lexicon : Lexicon) (source filename name : String) :
    ReportsAlike filename (if settings.debug then lexicon.summary else "")
      (settings.reportWith lexicon source filename)
      ((TokenStream.mk lexicon source name).diagnostics.map .ofDiagnostic) := by
  generalize hdiagnostics : (TokenStream.mk lexicon source name).diagnostics = diagnostics
  -- The two streams differ in the name of their source alone, and an editor does not show it.
  have hrenamed : (TokenStream.mk lexicon source filename).diagnostics =
      diagnostics.map ({ · with filename := filename }) := by
    rw [TokenStream.diagnostics_rename lexicon source name, hdiagnostics]
  have hstatus : (settings.reportWith lexicon source filename).status =
      if diagnostics.isEmpty then 0 else 1 := by
    simp [Settings.reportWith, hclassified, hrenamed]
  have hfilter : (diagnostics.map DocumentDiagnostic.ofDiagnostic).filter
      (·.severity = .warning) = diagnostics.map .ofDiagnostic := by
    rw [List.filter_eq_self]
    simp [DocumentDiagnostic.ofDiagnostic]
  refine ⟨?_, ?_, diagnostics.map fun diagnostic => diagnostic.format filename ++ "\n", ?_, ?_⟩
  · rw [hstatus]
    split <;> decide
  · rw [hstatus]
    cases diagnostics <;> simp [DocumentDiagnostic.ofDiagnostic]
  · simp [Settings.reportWith, hclassified, hrenamed, Settings.diagnosticLines, Function.comp_def,
      Diagnostic.format_rename]
  · rw [hfilter, List.forall₂_map_left_iff, List.forall₂_map_right_iff, List.forall₂_same]
    intro diagnostic _
    exact printsAt_format diagnostic filename

/-! ## Source files -/

namespace CommandLine.Arguments.Names

variable {arguments : Arguments} {text : String}

theorem source_eq (h : arguments.Names text) (hclassified : arguments.classified = [])
    {disk : Disk} {found : String} (hreadable : disk.text (Path.ofString text) = .ok found)
    (standardInput : String) :
    arguments.source disk standardInput =
      .ok ⟨found, (Path.ofString text).text, extensionNote (Path.ofString text)⟩ := by
  unfold source
  rw [if_neg (by simp [hclassified]), h.inputPath?_eq]
  dsimp only
  rw [hreadable]
  rfl

theorem report_eq (h : arguments.Names text) {configured : LexiconOptions} {lexicon : Lexicon}
    (hlexicon : Lexicon.ofOptions configured = .ok lexicon) (source filename : String) :
    (arguments.settings configured).report source filename =
      .ok ((arguments.settings configured).reportWith lexicon source filename) := by
  rw [← h.options_settings configured] at hlexicon
  exact Settings.report_eq_ok hlexicon source filename

theorem exists_answer_eq (h : arguments.Names text) (hclassified : arguments.classified = [])
    {disk : Disk} {configured : LexiconOptions} {found : String} {outcome : Outcome}
    (hconfigured : disk.configuredOptions arguments.configPath = .ok configured)
    (hreadable : disk.text (Path.ofString text) = .ok found)
    (hreport : (arguments.settings configured).report found (Path.ofString text).text =
      .ok outcome) (host : Host) (standardInput : String) :
    ∃ notes, arguments.answer host disk standardInput = .ok (outcome.withNotes notes) := by
  rw [answer, hconfigured]
  simp only [h.input, Option.isNone_some, Bool.and_false, Bool.false_eq_true, if_false,
    h.source_eq hclassified hreadable standardInput, report, hreport, hclassified,
    List.contains_nil]
  exact ⟨_, rfl⟩

end CommandLine.Arguments.Names

/-- What the command line makes of a source file, beside what an editor makes of a document at the
same path. -/
structure FrontEndsAgree (host : Host) (disk : Disk) (texts : List String) (arguments : Arguments)
    (text contents : String) (found : DocumentLexicon) : Prop where
  accepted : found.problem = none → ∃ configured,
    disk.configuredOptions arguments.configPath = .ok configured ∧
      Lexicon.ofOptions (arguments.settings configured).options = .ok found.lexicon ∧
      (∀ {workspace : Workspace} {address source}, workspace.Holds address text source →
        ∀ filename, ∃ outcome published,
          (arguments.settings configured).report source filename = .ok outcome ∧
            workspace.diagnostics disk address = .ok published ∧
            ReportsAlike filename (if arguments.debug then found.lexicon.summary else "") outcome
              published) ∧
      ∀ standardInput, ∃ outcome notes,
        (arguments.settings configured).report contents (Path.ofString text).text = .ok outcome ∧
          CommandLine.answer host disk standardInput texts = .ok (outcome.withNotes notes)
  refused : ∀ message, found.problem = some message → found.lexicon = .standard ∧
    ∀ standardInput, ∃ outcome, CommandLine.answer host disk standardInput texts = .ok outcome ∧
      outcome.EndsInError message

/-- Whenever a document has a lexicon, the command line has the same one or refuses the
configuration with the same message. -/
theorem frontEndsAgree {host : Host} {disk : Disk} {texts : List String} {arguments : Arguments}
    {text contents : String} {found : DocumentLexicon}
    (hrequest : Request.ofTexts host.rules texts = .ok (.run arguments))
    (hnames : arguments.Names text)
    (hclassified : arguments.classified = [])
    (hreadable : disk.text (Path.ofString text) = .ok contents)
    (hfound : DocumentLexicon.ofPath disk (some text) = .ok found) :
    FrontEndsAgree host disk texts arguments text contents found := by
  have hanswer : ∀ standardInput, CommandLine.answer host disk standardInput texts =
      arguments.answer host disk standardInput := by
    intro standardInput
    rw [CommandLine.answer, hrequest]
  have hdirectory := hfound
  rw [DocumentLexicon.ofPath_eq disk hnames.file.1] at hdirectory
  rcases DocumentLexicon.cases_of_inDirectory hdirectory with
    ⟨configured, hconfigured, hlexicon, hproblem⟩ | ⟨message, hrefuses, hrefused⟩
  · rw [← hnames.configPath_eq] at hconfigured
    have hreport := hnames.report_eq hlexicon
    rw [← hnames.options_settings configured] at hlexicon
    have hsettings : (arguments.settings configured).classified = [] := by
      rw [Arguments.settings, Arguments.wordTexts, hclassified, List.map_nil]
    refine ⟨fun _ => ⟨configured, hconfigured, hlexicon, ?_, ?_⟩, ?_⟩
    · intro workspace address source hholds filename
      refine ⟨_, _, hreport source filename, hholds.diagnostics_eq hfound, ?_⟩
      rw [hproblem]
      exact reportsAlike_reportWith hsettings found.lexicon source filename _
    · intro standardInput
      obtain ⟨notes, hnotes⟩ := hnames.exists_answer_eq hclassified hconfigured hreadable
        (hreport contents _) host standardInput
      exact ⟨_, notes, hreport contents _, (hanswer standardInput).trans hnotes⟩
    · intro message hmessage
      rw [hproblem] at hmessage
      contradiction
  · have hproblem : found.problem = some message := by rw [hrefused]
    constructor
    · intro hnone
      rw [hproblem] at hnone
      contradiction
    · intro shown hshown
      obtain rfl : message = shown := Option.some.inj (hproblem.symm.trans hshown)
      refine ⟨by rw [hrefused], ?_⟩
      intro standardInput
      rw [hanswer]
      exact hnames.answer_of_refuses host hrefuses hreadable standardInput

theorem frontEndsAgree_open_comment :
    let disk (configuration : String) : Disk := fun path =>
      if path = ⟨.relative, ["hlslex.toml"]⟩ then .file (Text.Utf8.encode configuration)
      else if path = ⟨.relative, ["sky.hlsl"]⟩ then .file (Text.Utf8.encode "/*")
      else .inaccessible .notFound
    let words := disk "[lexicon]\nadditional_types = [\"sky\"]"
    let number := disk "lexicon = 1"
    let host : Host := ⟨⟨false, false⟩, fun notice => notice.notice.message⟩
    let workspace (configuration : Disk) : Workspace :=
      (OpenDocuments.put {} (Path.ofString "sky.hlsl") "/*").workspace configuration
    let arguments : Arguments := { input := some "sky.hlsl" }
    let refused : DocumentLexicon := ⟨.standard, some "[lexicon] must be a table"⟩
    Request.ofTexts host.rules ["sky.hlsl"] = .ok (.run arguments) ∧ arguments.Names "sky.hlsl" ∧
      arguments.classified = [] ∧
      (words.text (Path.ofString "sky.hlsl") = .ok "/*" ∧
        (workspace words).Holds "sky.hlsl" "sky.hlsl" "/*" ∧
        ∃ lexicon, DocumentLexicon.ofPath words (some "sky.hlsl") = .ok ⟨lexicon, none⟩ ∧
          FrontEndsAgree host words ["sky.hlsl"] arguments "sky.hlsl" "/*" ⟨lexicon, none⟩) ∧
      number.text (Path.ofString "sky.hlsl") = .ok "/*" ∧
        (workspace number).Holds "sky.hlsl" "sky.hlsl" "/*" ∧
        DocumentLexicon.ofPath number (some "sky.hlsl") = .ok refused ∧
        FrontEndsAgree host number ["sky.hlsl"] arguments "sky.hlsl" "/*" refused := by
  intro disk words number host workspace arguments refused
  have hrequest : Request.ofTexts host.rules ["sky.hlsl"] = .ok (.run arguments) := by
    decide +kernel
  have hnames : arguments.Names "sky.hlsl" :=
    ⟨rfl, by decide, by simp [arguments], rfl, rfl, rfl, rfl⟩
  have hpath : (Path.ofString "sky.hlsl").parent.child configName =
      ⟨.relative, ["hlslex.toml"]⟩ := by decide +kernel
  have hwords : words.text (Path.ofString "sky.hlsl") = .ok "/*" := by decide +kernel
  have hnumber : number.text (Path.ofString "sky.hlsl") = .ok "/*" := by decide +kernel
  have hfound : ∃ lexicon,
      DocumentLexicon.ofPath words (some "sky.hlsl") = .ok ⟨lexicon, none⟩ := by
    have hoptions : words.configuredOptions ⟨.relative, ["hlslex.toml"]⟩ =
        .ok { additionalTypes := ["sky"] } := by
      decide +kernel
    have hjoinable : IsJoinable "sky" := (isPlainWord_ofList rfl).isJoinable
    have hlexicon : ∃ lexicon, Lexicon.ofOptions { additionalTypes := ["sky"] } = .ok lexicon :=
      Lexicon.exists_ofOptions_eq_ok (by simpa [LexiconOptions.extensions] using hjoinable)
    obtain ⟨lexicon, hlexicon⟩ := hlexicon
    refine ⟨lexicon, ?_⟩
    rw [DocumentLexicon.ofPath_eq _ hnames.file.1,
      DocumentLexicon.inDirectory_of_configuredOptions (hpath ▸ hoptions),
      DocumentLexicon.ofOptions_of_eq_ok hlexicon]
  have hrefused : DocumentLexicon.ofPath number (some "sky.hlsl") = .ok refused := by
    have hoptions : number.configuredOptions ⟨.relative, ["hlslex.toml"]⟩ =
        .error (.refused .lexiconNotTable) := by
      decide +kernel
    rw [DocumentLexicon.ofPath_eq _ hnames.file.1]
    exact DocumentLexicon.inDirectory_of_refuses (.config (hpath ▸ hoptions))
  have hholds : ∀ configuration, (workspace configuration).Holds "sky.hlsl" "sky.hlsl" "/*" :=
    fun configuration => OpenDocuments.holds_put {} configuration "sky.hlsl" "/*"
  obtain ⟨lexicon, hlexicon⟩ := hfound
  exact ⟨hrequest, hnames, rfl,
    ⟨hwords, hholds words, lexicon, hlexicon,
      frontEndsAgree hrequest hnames rfl hwords hlexicon⟩,
    hnumber, hholds number, hrefused, frontEndsAgree hrequest hnames rfl hnumber hrefused⟩

end ShaderTokens
