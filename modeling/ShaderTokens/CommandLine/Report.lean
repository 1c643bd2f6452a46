import ShaderTokens.Lexicon.Summary
import ShaderTokens.TokenLine
import ShaderTokens.TokenStream

/-!
# Reports

What the program writes about a source: its tokens, a line for each, and its diagnostics; or, if it
is asked about words, their categories.
-/

namespace ShaderTokens.CommandLine

structure Outcome where
  status : Nat := 0
  output : String := ""
  errors : String := ""
  deriving DecidableEq, Repr

namespace Outcome

def error (message : String) : Outcome := { status := 2, errors := "error: " ++ message ++ "\n" }

def withNotes (notes : String) (outcome : Outcome) : Outcome :=
  { outcome with errors := notes ++ outcome.errors }

end Outcome

structure Settings where
  options : LexiconOptions := {}
  classified : List String := []
  json : Bool := false
  whitespace : Bool := false
  debug : Bool := false
  deriving DecidableEq, Repr

namespace Settings

def categoryLines (lexicon : Lexicon) (words : List String) : String :=
  String.join (words.map fun word => word ++ "\t" ++ (lexicon.classify word false).name ++ "\n")

def tokenLines (settings : Settings) (tokens : List Token) : String :=
  String.join (tokens.map fun token => token.listing settings.json ++ "\n")

def diagnosticLines (diagnostics : List Diagnostic) : String :=
  String.join (diagnostics.map fun diagnostic => diagnostic.format diagnostic.filename ++ "\n")

def reportWith (settings : Settings) (lexicon : Lexicon) (source filename : String) : Outcome :=
  let summary := if settings.debug then lexicon.summary else ""
  if settings.classified.isEmpty then
    let stream : TokenStream := ⟨lexicon, source, filename⟩
    let diagnostics := stream.diagnostics
    { status := if diagnostics.isEmpty then 0 else 1
      output := settings.tokenLines (stream.tokens settings.whitespace)
      errors := summary ++ diagnosticLines diagnostics }
  else { output := categoryLines lexicon settings.classified, errors := summary }

def report (settings : Settings) (source filename : String) : Except LexiconError Outcome := do
  return settings.reportWith (← Lexicon.ofOptions settings.options) source filename

theorem report_eq_ok {settings : Settings} {lexicon : Lexicon}
    (h : Lexicon.ofOptions settings.options = .ok lexicon) (source filename : String) :
    settings.report source filename = .ok (settings.reportWith lexicon source filename) := by
  rw [report, h]
  rfl

theorem report_eq_error {settings : Settings} {error : LexiconError}
    (h : Lexicon.ofOptions settings.options = .error error) (source filename : String) :
    settings.report source filename = .error error := by
  rw [report, h]
  rfl

end Settings

end ShaderTokens.CommandLine
