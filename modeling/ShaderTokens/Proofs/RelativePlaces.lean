import Mathlib.Data.List.DropRight
import ShaderTokens.Editor.SemanticTokens

/-!
# Reading relative places back

An editor reads the numbers of an encoding in groups of five and adds up the places.  It finds the
stretches that were encoded.
-/

namespace ShaderTokens.Editor

/-! ## Groups of five -/

structure RelativeStretch where
  lineDelta : Int
  characterDelta : Int
  length : Nat
  type : Nat
  modifiers : Nat
  deriving DecidableEq, Repr

namespace RelativeStretch

/-- Only complete groups can be read, and only places can be negative. -/
def read? : List Int → Option (List RelativeStretch)
  | [] => some []
  | lineDelta :: characterDelta :: length :: type :: modifiers :: others => do
    let first : RelativeStretch :=
      { lineDelta, characterDelta, length := ← length.toNat?, type := ← type.toNat?,
        modifiers := ← modifiers.toNat? }
    return first :: (← read? others)
  | _ => none

def resolve (line character : Int) : List RelativeStretch → List Stretch
  | [] => []
  | relative :: others =>
    let stretch : Stretch :=
      { line := line + relative.lineDelta
        character :=
          if relative.lineDelta = 0 then character + relative.characterDelta
          else relative.characterDelta
        length := relative.length
        type := relative.type
        modifiers := relative.modifiers }
    stretch :: resolve stretch.line stretch.character others

end RelativeStretch

/-! ## What an encoding holds -/

def Stretch.relative (line character : Int) (stretch : Stretch) : RelativeStretch where
  lineDelta := stretch.line - line
  characterDelta :=
    if stretch.line - line = 0 then stretch.character - character else stretch.character
  length := stretch.length
  type := stretch.type
  modifiers := stretch.modifiers

def relativeStretches (line character : Int) : List Stretch → List RelativeStretch
  | [] => []
  | stretch :: others =>
    stretch.relative line character :: relativeStretches stretch.line stretch.character others

@[simp] theorem read?_encodeStretches (line character : Int) (stretches : List Stretch) :
    RelativeStretch.read? (encodeStretches line character stretches) =
      some (relativeStretches line character stretches) := by
  induction stretches generalizing line character with
  | nil => rfl
  | cons stretch stretches ih =>
      have hnat : ∀ count : Nat, (count : Int).toNat? = some count := fun count => rfl
      simp only [encodeStretches, relativeTo, List.cons_append, List.nil_append,
        RelativeStretch.read?, hnat, ih]
      rfl

@[simp] theorem resolve_relativeStretches (line character : Int) (stretches : List Stretch) :
    RelativeStretch.resolve line character (relativeStretches line character stretches) =
      stretches := by
  induction stretches generalizing line character with
  | nil => rfl
  | cons stretch stretches ih =>
      have hline : line + (stretch.line - line) = stretch.line := by omega
      have hcharacter : (if stretch.line - line = 0 then
          character + (if stretch.line - line = 0 then stretch.character - character
            else stretch.character)
          else if stretch.line - line = 0 then stretch.character - character
            else stretch.character) = stretch.character := by
        split <;> omega
      simp only [relativeStretches, RelativeStretch.resolve, Stretch.relative, hline, hcharacter,
        ih]

@[simp] theorem map_length_relativeStretches (line character : Int) (stretches : List Stretch) :
    (relativeStretches line character stretches).map RelativeStretch.length =
      stretches.map Stretch.length := by
  induction stretches generalizing line character with
  | nil => rfl
  | cons stretch stretches ih =>
      rw [relativeStretches, List.map_cons, List.map_cons, ih]
      rfl

theorem lineDelta_nonneg {line : Int} (character : Int) {stretches : List Stretch}
    (hfirst : ∀ stretch ∈ stretches, line ≤ stretch.line)
    (hordered : stretches.Pairwise fun stretch following => stretch.line ≤ following.line) :
    ∀ relative ∈ relativeStretches line character stretches, 0 ≤ relative.lineDelta := by
  induction stretches generalizing line character with
  | nil => simp [relativeStretches]
  | cons stretch stretches ih =>
      obtain ⟨hnext, hothers⟩ := List.pairwise_cons.mp hordered
      have hline := hfirst stretch List.mem_cons_self
      intro relative hrelative
      rcases List.mem_cons.mp hrelative with rfl | hrelative
      · simp only [Stretch.relative]
        omega
      · exact ih stretch.character hnext hothers relative hrelative

/-! ## Absolute places -/

/-- The pieces of a text between its line feeds, numbered from 0.  The carriage returns at their
ends are taken off, and only those with something left are listed. -/
def numberedPieces (text : String) : List (List Char × Nat) :=
  ((text.toList.splitOn '\n').map (List.rdropWhile (· = '\r'))).zipIdx.filter (·.1 ≠ [])

def placedPiece (token : Token) (semanticType : SemanticType) (piece : List Char × Nat) :
    Stretch where
  line := token.line - 1 + piece.2
  character := if piece.2 = 0 then token.column - 1 else 0
  length := piece.1.length
  type := semanticType.index
  modifiers := if token.category.isDeprecated then 1 else 0

def isReported (token : Token) : Bool := (SemanticType.ofCategory? token.category).isSome

def reported (token : Token) : List Stretch :=
  match SemanticType.ofCategory? token.category with
  | none => []
  | some semanticType => (numberedPieces token.text).map (placedPiece token semanticType)

private theorem between_eq_splitOn (separator : Char) (text : List Char) :
    Text.between separator text = text.splitOn separator := by
  have hpieces := List.splitOn_intercalate separator
    (fun _ => Text.separator_not_mem_of_mem_between) (Text.between_ne_nil separator text)
  rw [← hpieces, Text.intercalate_between]

section Pieces

variable (semanticType : SemanticType) (modifiers : Nat) (line character : Int)

private theorem stretchesFrom_eq_map_zipIdx (number : Nat) (pieces : List (List Char)) :
    stretchesFrom semanticType modifiers (line + number) (if number = 0 then character else 0)
        pieces =
      (((pieces.map (List.rdropWhile (· = '\r'))).zipIdx number).filter (·.1 ≠ [])).map fun piece =>
        ⟨line + piece.2, if piece.2 = 0 then character else 0, piece.1.length, semanticType.index,
          modifiers⟩ := by
  induction pieces generalizing number with
  | nil => rfl
  | cons piece pieces ih =>
      have hnext := ih (number + 1)
      have hvisible : Text.dropTrailing '\r' piece = piece.rdropWhile (· = '\r') := rfl
      rw [if_neg (Nat.succ_ne_zero number), Int.natCast_add, ← Int.add_assoc] at hnext
      rw [stretchesFrom, hvisible, List.map_cons, List.zipIdx_cons]
      by_cases hempty : piece.rdropWhile (· = '\r') = []
      · simpa [hempty] using hnext
      · simpa [hempty] using hnext

end Pieces

private theorem stretches_eq_reported (token : Token) : stretches token = reported token := by
  rw [stretches, reported]
  cases SemanticType.ofCategory? token.category with
  | none => rfl
  | some semanticType =>
      have hpieces := stretchesFrom_eq_map_zipIdx semanticType
        (if token.category.isDeprecated then 1 else 0) (token.line - 1) (token.column - 1) 0
        (token.text.toList.splitOn '\n')
      rw [if_pos rfl, Int.natCast_zero, Int.add_zero] at hpieces
      dsimp only
      rw [between_eq_splitOn, hpieces]
      rfl

@[simp] private theorem length_encodeStretches (line character : Int) (stretches : List Stretch) :
    (encodeStretches line character stretches).length = 5 * stretches.length := by
  induction stretches generalizing line character with
  | nil => rfl
  | cons stretch stretches ih =>
      rw [encodeStretches, List.length_append, ih, List.length_cons, relativeTo]
      simp only [List.length_cons, List.length_nil]
      omega

private theorem length_flatMap_reported (tokens : List Token) :
    (tokens.flatMap reported).length =
      ((tokens.filter isReported).flatMap fun token => numberedPieces token.text).length := by
  induction tokens with
  | nil => rfl
  | cons token tokens ih =>
      rw [List.flatMap_cons, List.length_append, ih, List.filter_cons, reported, isReported]
      cases SemanticType.ofCategory? token.category with
      | none => simp
      | some semanticType => simp

/-- What is reported of any tokens can be read back from the encoding, in order and with nothing
added. -/
theorem resolve_read_encodeTokens (tokens : List Token) :
    ∃ relatives, RelativeStretch.read? (encodeTokens tokens) = some relatives ∧
      RelativeStretch.resolve 0 0 relatives = tokens.flatMap reported ∧
      (encodeTokens tokens).length =
        5 * ((tokens.filter isReported).flatMap fun token => numberedPieces token.text).length := by
  have hstretches : tokens.flatMap stretches = tokens.flatMap reported :=
    List.flatMap_congr fun token _ => stretches_eq_reported token
  refine ⟨_, read?_encodeStretches 0 0 _, ?_, ?_⟩
  · rw [resolve_relativeStretches, hstretches]
  · rw [encodeTokens, length_encodeStretches, hstretches, length_flatMap_reported]

example :
    encodeTokens [⟨"/*\n\r\na*/", .comment, 0, 9, 3, 5⟩, ⟨"b", .identifier, 2, 3, 1, 8⟩] =
      [2, 4, 2, 7, 0, 2, 0, 3, 7, 0, -4, 7, 1, 4, 0] := by
  decide

end ShaderTokens.Editor
