import ShaderTokens.Proofs.ConfiguredLexicon

/-!
# Failures of a configuration

A configuration that is no good is reported: the document has the words of HLSL alone and an error
text, the editor shows that text at the start of the document, and the command line ends with it.
Some kinds of failure are not reported but break off the reading.
-/

namespace ShaderTokens

/-! ## Errors of HLSL with more words -/

theorem RefusesConfig.ne_empty {disk : Disk} {path : Path} {message : String}
    (h : RefusesConfig disk path message) : message ≠ "" := by
  cases h with
  | @config error => cases error <;> simp [ConfigError.message]
  | word => simp [LexiconError.message]

/-! ## Contents of configuration files -/

namespace LexiconOptions

end LexiconOptions

section Contents

variable {disk : Disk} {path : Path} {content : List UInt8}

end Contents

/-! ## Reports -/

open Editor

section Documents

variable {disk : Disk} {text : String}

end Documents

end ShaderTokens
