import ShaderTokens.Lexicon.Options
import ShaderTokens.Scanner

/-!
# Token streams

The tokens and diagnostics of one source.  A stream can be read any number of times, by any number
of iterators at once; a session records how far each of them has come.  A scan, by contrast, can be
read only once: all iterators over it share its place in the source.
-/

namespace ShaderTokens

/-! ## Streams -/

structure TokenStream where
  lexicon : Lexicon
  source : String
  filename : String

namespace TokenStream

def scanner (stream : TokenStream) : Scanner := .ofSource stream.lexicon stream.source

def scan (stream : TokenStream) : List ScannedToken := stream.scanner.toList

def allTokens (stream : TokenStream) : List Token := stream.scan.map ScannedToken.token

def tokens (stream : TokenStream) (includeWhitespace : Bool) : List Token :=
  stream.allTokens.filter fun token => includeWhitespace || !token.isWhitespace

def report (stream : TokenStream) (scanned : List ScannedToken) : List Diagnostic :=
  scanned.filterMap fun token => token.diagnostic? stream.source stream.filename

def diagnostics (stream : TokenStream) : List Diagnostic := stream.report stream.scan

end TokenStream

def highlight (lexicon : Lexicon) (source : String) : List Token :=
  (TokenStream.mk lexicon source "input.hlsl").tokens false

/-! ## Reading a stream with several iterators -/

structure StreamIterator where
  scanner : Scanner
  reports : List Diagnostic

/-- A stream with its live iterators.  The diagnostics are known once some pass has come to the end
of the source. -/
structure StreamSession where
  stream : TokenStream
  iterators : List (String × StreamIterator) := []
  known : Option (List Diagnostic) := none

namespace StreamSession

def setIterator (session : StreamSession) (name : String) (iterator : StreamIterator) :
    StreamSession :=
  { session with
    iterators := (name, iterator) :: session.iterators.filter fun entry => entry.1 ≠ name }

def start (session : StreamSession) (name : String) : StreamSession :=
  session.setIterator name ⟨session.stream.scanner, []⟩

def abandon (session : StreamSession) (name : String) : StreamSession :=
  { session with iterators := session.iterators.filter fun entry => entry.1 ≠ name }

def pull (session : StreamSession) (name : String) (count : Nat) :
    Option (List Token × StreamSession) :=
  (session.iterators.lookup name).map fun iterator =>
    let (scanned, scanner) := iterator.scanner.take count
    let reports := iterator.reports ++ session.stream.report scanned
    let moved := session.setIterator name ⟨scanner, reports⟩
    let known := if scanned.length < count then some reports else session.known
    (scanned.map ScannedToken.token, { moved with known })

def tokens (session : StreamSession) (includeWhitespace : Bool) : List Token × StreamSession :=
  (session.stream.tokens includeWhitespace,
    { session with known := some session.stream.diagnostics })

def diagnostics (session : StreamSession) : List Diagnostic × StreamSession :=
  let found := session.known.getD session.stream.diagnostics
  (found, { session with known := some found })

end StreamSession

/-! ## Reading a scan that is shared -/

/-- One scan of a source; its iterators have no place of their own. -/
structure SharedScan where
  scanner : Scanner
  faults : List Unterminated := []

namespace SharedScan

def ofSource (lexicon : Lexicon) (source : String) : SharedScan :=
  { scanner := .ofSource lexicon source }

def pull (scan : SharedScan) (count : Nat) : List Token × SharedScan :=
  let (scanned, scanner) := scan.scanner.take count
  (scanned.map ScannedToken.token,
    { scanner, faults := scan.faults ++ scanned.filterMap ScannedToken.fault })

end SharedScan

end ShaderTokens
