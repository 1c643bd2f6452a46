import ShaderTokens.Pattern.Basic

/-!
# Places in a text

A cursor keeps the characters before it in reverse order and those after it in order, so that a step
in either direction is immediate.
-/

namespace ShaderTokens

structure Cursor where
  before : List Char
  after : List Char
  deriving DecidableEq, Repr

namespace Cursor

def ofText (text : List Char) : Cursor := ⟨[], text⟩

def text (cursor : Cursor) : List Char := cursor.before.reverse ++ cursor.after

def offset (cursor : Cursor) : Nat := cursor.before.length

def next? : Cursor → Option (Char × Cursor)
  | ⟨_, []⟩ => none
  | ⟨before, char :: after⟩ => some (char, ⟨char :: before, after⟩)

def back? : Nat → Cursor → Option Cursor
  | 0, cursor => some cursor
  | _ + 1, ⟨[], _⟩ => none
  | count + 1, ⟨char :: before, after⟩ => back? count ⟨before, char :: after⟩

@[simp] theorem text_ofText (text : List Char) : (ofText text).text = text := by
  simp [ofText, Cursor.text]

theorem text_next? {cursor following : Cursor} {char : Char}
    (h : cursor.next? = some (char, following)) : following.text = cursor.text := by
  obtain ⟨before, after⟩ := cursor
  cases after with
  | nil => simp [next?] at h
  | cons first others =>
    simp only [next?, Option.some.injEq, Prod.mk.injEq] at h
    obtain ⟨rfl, rfl⟩ := h
    simp [Cursor.text]

/-! ## Anchors -/

/-- Exactly one of the two neighbours is a word character; a missing neighbour is not. -/
def atWordBoundary (asciiOnly : Bool) (cursor : Cursor) : Bool :=
  let isWord := CharClass.word.contains asciiOnly
  cursor.before.head?.any isWord != cursor.after.head?.any isWord

def isTextEmpty (cursor : Cursor) : Bool := cursor.before.isEmpty && cursor.after.isEmpty

/-- An empty text has neither a word boundary nor a place inside or outside a word. -/
def satisfies (cursor : Cursor) : Anchor → Bool
  | .textStart => cursor.before.isEmpty
  | .textEnd => cursor.after.isEmpty
  | .lineStart => cursor.before.head?.all (· = '\n')
  | .lineEnd => cursor.after.head?.all (· = '\n')
  | .finalLineEnd => cursor.after.isEmpty || cursor.after == ['\n']
  | .wordBoundary asciiOnly => cursor.atWordBoundary asciiOnly
  | .insideWord asciiOnly => !cursor.isTextEmpty && !cursor.atWordBoundary asciiOnly

end Cursor

end ShaderTokens
