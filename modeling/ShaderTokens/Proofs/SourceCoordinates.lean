import ShaderTokens.Proofs.OpenConstruct
import ShaderTokens.Proofs.SourcePlace

/-!
# Coordinates of tokens

The scanner counts lines and columns as it goes, and the end of a token is counted from its text.
Both agree with what the source alone tells of a place: how many line feeds come before it, and how
far behind the last of them it is.
-/

namespace ShaderTokens

/-! ## The last line feed -/

namespace Text

def lastLineFeed? : List Char → Option Nat
  | [] => none
  | char :: others =>
    match lastLineFeed? others with
    | some index => some (index + 1)
    | none => if char = '\n' then some 0 else none

def lastLineStart (text : List Char) : Nat := (lastLineFeed? text).elim 0 (· + 1)

theorem lastLineFeed?_eq_none_iff {text : List Char} :
    lastLineFeed? text = none ↔ '\n' ∉ text := by
  induction text with
  | nil => simp [lastLineFeed?]
  | cons char others ih =>
      rw [lastLineFeed?]
      cases hothers : lastLineFeed? others with
      | some index => simpa [hothers] using fun _ => ih
      | none =>
          have hfeed : '\n' ∉ others := ih.mp hothers
          by_cases hchar : char = '\n' <;> simp [hchar, hfeed, eq_comm]

theorem exists_of_lastLineFeed?_eq_some {text : List Char} {index : Nat}
    (h : lastLineFeed? text = some index) :
    ∃ before after, text = before ++ '\n' :: after ∧ '\n' ∉ after ∧ index = before.length := by
  induction text generalizing index with
  | nil => contradiction
  | cons char others ih =>
      rw [lastLineFeed?] at h
      cases hothers : lastLineFeed? others with
      | some found =>
          rw [hothers, Option.some.injEq] at h
          obtain ⟨before, after, rfl, hafter, rfl⟩ := ih hothers
          exact ⟨char :: before, after, rfl, hafter, h.symm⟩
      | none =>
          simp only [hothers, Option.ite_none_right_eq_some, Option.some.injEq] at h
          obtain ⟨rfl, rfl⟩ := h
          exact ⟨[], others, rfl, lastLineFeed?_eq_none_iff.mp hothers, rfl⟩

end Text

theorem Position.column_after (position : Position) (text : List Char) :
    (position.after text).column =
      (Text.lastLineFeed? text).elim (position.column + text.length) (text.length - ·) := by
  induction text generalizing position with
  | nil => simp [Text.lastLineFeed?]
  | cons char others ih =>
      rw [after_cons, ih, Text.lastLineFeed?]
      cases Text.lastLineFeed? others with
      | some index =>
          simp only [Option.elim_some, List.length_cons]
          omega
      | none =>
          by_cases hchar : char = '\n'
          · simp only [advance, hchar, if_true, Option.elim_none, Option.elim_some,
              List.length_cons]
            omega
          · simp only [advance, hchar, if_false, Option.elim_none, List.length_cons]
            omega

/-! ## Coordinates -/

/-- The position of an offset in a source, told from the characters before it: the number of line
feeds, and the distance from where its line begins. -/
def coordinates (source : String) (offset : Nat) : Position :=
  let before := source.toList.take offset
  ⟨1 + before.count '\n', offset - Text.lastLineStart before + 1, offset⟩

theorem coordinates_length {source : String} {before after : List Char}
    (hsource : source.toList = before ++ after) :
    coordinates source before.length = .after .origin before := by
  have hline := Position.origin.line_after before
  have hcolumn := Position.origin.column_after before
  have hoffset := Position.offset_after_origin before
  have htake : source.toList.take before.length = before := by
    rw [hsource, List.take_left]
  have hstart : (before.length - Text.lastLineStart before + 1 : Int) =
      (Position.origin.after before).column := by
    rw [hcolumn, Text.lastLineStart]
    cases Text.lastLineFeed? before with
    | none =>
        simp only [Option.elim_none, Position.origin]
        omega
    | some index =>
        simp only [Option.elim_some]
        omega
  rw [coordinates, htake, hstart, ← hoffset]
  rw [show (1 : Int) = Position.origin.line from rfl, ← hline]

/-- Counted from 0, coordinates are the line of an offset and its distance from where that line
begins. -/
theorem place_coordinates {source : String} {offset : Nat} (h : offset ≤ source.length) :
    (coordinates source offset).place =
      toLex ((Text.lineOf source.toList offset : ℤ), (Text.columnOf source.toList offset : ℤ)) := by
  have hlength : (source.toList.take offset).length = offset := by
    rw [List.length_take, String.length_toList, Nat.min_eq_left h]
  have hcoordinates := coordinates_length (List.take_append_drop offset source.toList).symm
  rw [hlength] at hcoordinates
  rw [hcoordinates, Position.place_after_origin, Text.lineOf, Text.columnOf]

/-- The end of a token, counted from its text: every line feed begins a line, and columns count
from the last of them, or from the token where there is none. -/
def Token.countedStop (token : Token) : Position :=
  let text := token.text.toList
  ⟨token.line + text.count '\n',
    (Text.lastLineFeed? text).elim (token.column + text.length) (text.length - ·),
    token.endOffset⟩

theorem Token.stop_eq_countedStop (token : Token) : token.span.stop = token.countedStop := by
  simp only [span, stop, countedStop, Position.line_after, Position.column_after]
  rfl

/-! ## Where tokens stand -/

private theorem isChain_stop_placed (start : Position) (lexemes : List Lexeme) :
    ((placed start lexemes).map ScannedToken.token).IsChain
      fun token following => token.span.stop = following.span.start := by
  induction lexemes generalizing start with
  | nil => exact .nil
  | cons lexeme lexemes ih =>
      cases lexemes with
      | nil => exact .singleton _
      | cons following lexemes => exact .cons_cons (stop_scanned start lexeme).symm (ih _)

structure AreLocated (source : String) (tokens : List Token) : Prop where
  starts : ∀ token ∈ tokens, token.span.start = coordinates source token.startOffset.toNat
  stops : ∀ token ∈ tokens, token.span.stop = token.countedStop
  meet : tokens.IsChain fun token following => token.span.stop = following.span.start
  ends : ∀ token ∈ tokens.getLast?, token.span.stop = coordinates source source.length

theorem start_of_mem_allTokens {stream : TokenStream} {token : Token}
    (h : token ∈ stream.allTokens) :
    token.start = coordinates stream.source token.startOffset.toNat := by
  obtain ⟨earlier, lexeme, later, hlexemes, rfl⟩ := mem_allTokens h
  have hsource : stream.source.toList = textOf earlier ++ textOf (lexeme :: later) := by
    rw [← textOf_append, ← hlexemes, stream.textOf_lexemes]
  have hoffset : (Position.origin.after (textOf earlier)).offset.toNat =
      (textOf earlier).length := by
    rw [Position.offset_after_origin, Int.toNat_natCast]
  simp only [Scanner.scanned, hoffset, coordinates_length hsource]
  rfl

/-- The positions of the tokens of any source are those of its characters. -/
theorem areLocated_allTokens (stream : TokenStream) :
    AreLocated stream.source stream.allTokens where
  starts := fun _ => start_of_mem_allTokens
  stops := fun token _ => token.stop_eq_countedStop
  meet := by
    rw [TokenStream.allTokens, stream.scan_eq_placed]
    exact isChain_stop_placed _ _
  ends := by
    intro token htoken
    rw [TokenStream.allTokens, List.getLast?_map, Option.mem_def, Option.map_eq_some_iff] at htoken
    obtain ⟨last, hlast, rfl⟩ := htoken
    have hstop := TokenStream.stop_of_mem_scan (List.mem_of_getLast? hlast)
    rw [stream.scan_eq_placed] at hlast
    have hwhole := coordinates_length (List.append_nil stream.source.toList).symm
    rw [Token.span, ← hstop, stop_getLast?_placed _ _ last hlast, stream.textOf_lexemes, ← hwhole,
      String.length_toList]

end ShaderTokens
