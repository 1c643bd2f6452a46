import ShaderTokens.Lexicon.Basic
import ShaderTokens.Pattern.Notice

/-!
# What is noted while a lexicon is built

The words of a category are read one by one, then joined.  Notices are given on the way, and every
finished table is entered in a log.
-/

namespace ShaderTokens

structure WordNotice where
  notice : Pattern.Notice
  isJoined : Bool
  deriving DecidableEq, Repr

inductive BuildNote
  | notice (notice : WordNotice)
  | compiled (category : Category) (count : Nat)
  deriving DecidableEq, Repr

def noticesOn (isJoined : Bool) (text : String) : List BuildNote :=
  (Pattern.notices text).map fun notice => .notice ⟨notice, isJoined⟩

/-- The notices on words up to the first that is refused, then on all of them joined. -/
def wordNotes (category : Category) (joined : List String) : List String → List BuildNote
  | [] => noticesOn true (joinWords joined)
  | word :: words =>
    noticesOn false word ++
      match checkWord category word with
      | .ok () => wordNotes category joined words
      | .error _ => []

def WordTable.buildNotes : WordTable → List BuildNote
  | [] => []
  | (category, words) :: others =>
    wordNotes category words words ++
      match LexiconTable.build category words with
      | .ok _ => .compiled category words.length :: buildNotes others
      | .error _ => []

end ShaderTokens
