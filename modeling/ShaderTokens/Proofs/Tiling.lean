import Mathlib.Data.Int.Basic
import ShaderTokens.Proofs.Lexemes

/-!
# Tokens tile their source

Every token begins where the one before it ends, and the text of each is the slice of the source
that its offsets name.  No source is refused, so this holds of malformed source too.
-/

namespace ShaderTokens

/-! ## Where tokens stand -/

@[simp] theorem Position.offset_after (position : Position) (text : List Char) :
    (position.after text).offset = position.offset + text.length := by
  induction text generalizing position with
  | nil => simp
  | cons char text ih =>
      have hadvance : (position.advance char).offset = position.offset + 1 := by
        unfold advance
        split <;> rfl
      rw [after_cons, ih, hadvance, List.length_cons]
      omega

@[simp] theorem getElem?_placed (start : Position) (lexemes : List Lexeme) (index : Nat) :
    (placed start lexemes)[index]? =
      lexemes[index]?.map (Scanner.scanned (start.after (textOf (lexemes.take index)))) := by
  induction lexemes generalizing start index with
  | nil => rfl
  | cons lexeme lexemes ih =>
      cases index with
      | zero => rfl
      | succ index => simp [placed, ih]

theorem mem_placed {start : Position} {lexemes : List Lexeme} {scanned : ScannedToken}
    (h : scanned ∈ placed start lexemes) :
    ∃ earlier lexeme later, lexemes = earlier ++ lexeme :: later ∧
      scanned = Scanner.scanned (start.after (textOf earlier)) lexeme := by
  obtain ⟨index, hindex⟩ := List.mem_iff_getElem?.mp h
  rw [getElem?_placed, Option.map_eq_some_iff] at hindex
  obtain ⟨lexeme, hlexeme, rfl⟩ := hindex
  obtain ⟨hlt, rfl⟩ := List.getElem?_eq_some_iff.mp hlexeme
  refine ⟨lexemes.take index, lexemes[index], lexemes.drop (index + 1), ?_, rfl⟩
  rw [List.getElem_cons_drop, List.take_append_drop]

theorem getElem?_allTokens (stream : TokenStream) (index : Nat) :
    stream.allTokens[index]? =
      stream.lexemes[index]?.map fun lexeme =>
        (Scanner.scanned (.after .origin (textOf (stream.lexemes.take index))) lexeme).token := by
  rw [TokenStream.allTokens, List.getElem?_map, stream.scan_eq_placed, getElem?_placed,
    Option.map_map]
  rfl

theorem mem_allTokens {stream : TokenStream} {token : Token} (h : token ∈ stream.allTokens) :
    ∃ earlier lexeme later, stream.lexemes = earlier ++ lexeme :: later ∧
      token = (Scanner.scanned (.after .origin (textOf earlier)) lexeme).token := by
  rw [TokenStream.allTokens, stream.scan_eq_placed] at h
  obtain ⟨scanned, hscanned, rfl⟩ := List.mem_map.mp h
  obtain ⟨earlier, lexeme, later, hlexemes, rfl⟩ := mem_placed hscanned
  exact ⟨earlier, lexeme, later, hlexemes, rfl⟩

theorem exists_form_of_mem_allTokens {stream : TokenStream} {token : Token}
    (h : token ∈ stream.allTokens) :
    ∃ context first others lexeme,
      stream.source.toList.drop token.startOffset.toNat = first :: others ∧
      Lexeme.Form stream.lexicon context first others lexeme ∧
      token.content = lexeme.content := by
  obtain ⟨earlier, lexeme, later, hlexemes, rfl⟩ := mem_allTokens h
  have hcut := stream.cut
  rw [hlexemes] at hcut
  obtain ⟨first, others, hform, htext⟩ := hcut.form_of_append
  refine ⟨_, first, others, lexeme, ?_, hform, rfl⟩
  rw [← stream.textOf_lexemes, hlexemes, textOf_append, textOf_cons, htext]
  simp [Scanner.scanned, Position.origin]

theorem toList_text_of_content {token : Token} {lexeme : Lexeme}
    (h : token.content = lexeme.content) : token.text.toList = lexeme.text := by
  rw [show token.text = String.ofList lexeme.text from congrArg Prod.fst h, String.toList_ofList]

theorem exists_toList_text_of_drop {stream : TokenStream} {token : Token}
    (h : token ∈ stream.allTokens) {first : Char} {others : List Char}
    (hdrop : stream.source.toList.drop token.startOffset.toNat = first :: others) :
    ∃ context, token.text.toList = (Lexeme.read stream.lexicon context first others).text := by
  obtain ⟨context, first, others, lexeme, hplace, hform, hcontent⟩ := exists_form_of_mem_allTokens h
  obtain ⟨rfl, rfl⟩ := List.cons.inj (hplace.symm.trans hdrop)
  exact ⟨context, by rw [toList_text_of_content hcontent, Lexeme.read_eq_of_form hform]⟩

theorem exists_drop_of_isPrefix {stream : TokenStream} {token : Token}
    (h : token ∈ stream.allTokens) {front : List Char} (hfront : front <+: token.text.toList) :
    ∃ body, stream.source.toList.drop token.startOffset.toNat = front ++ body := by
  obtain ⟨context, first, others, lexeme, hdrop, hform, hcontent⟩ := exists_form_of_mem_allTokens h
  rw [toList_text_of_content hcontent] at hfront
  obtain ⟨body, hbody⟩ := hfront.trans (Lexeme.text_isPrefix_of_form hform)
  exact ⟨body, hdrop.trans hbody.symm⟩

theorem endOffset_of_mem_allTokens {stream : TokenStream} {token : Token}
    (h : token ∈ stream.allTokens) :
    token.endOffset = token.startOffset.toNat + token.text.toList.length := by
  obtain ⟨earlier, lexeme, later, -, rfl⟩ := mem_allTokens h
  simp [Scanner.scanned, Position.origin]

/-! ## Tiling -/

def slice (source : String) (start stop : Int) : String :=
  String.ofList ((source.toList.drop start.toNat).take (stop.toNat - start.toNat))

/-- Tokens that cover a source from its first character to its last, without gap or overlap. -/
structure Tiles (source : String) (tokens : List Token) : Prop where
  nonempty : ∀ token ∈ tokens, token.text ≠ ""
  starts : ∀ token ∈ tokens.head?, token.startOffset = 0
  adjoin : tokens.IsChain fun token following => following.startOffset = token.endOffset
  ends : ∀ token ∈ tokens.getLast?, token.endOffset = source.length
  cuts : ∀ token ∈ tokens, token.text = slice source token.startOffset token.endOffset
  covers : String.join (tokens.map Token.text) = source

private theorem isChain_placed (start : Position) (lexemes : List Lexeme) :
    ((placed start lexemes).map ScannedToken.token).IsChain
      fun token following => following.startOffset = token.endOffset := by
  induction lexemes generalizing start with
  | nil => exact .nil
  | cons lexeme lexemes ih =>
      cases lexemes with
      | nil => exact .singleton _
      | cons following lexemes => exact .cons_cons rfl (ih _)

theorem stop_getLast?_placed (start : Position) (lexemes : List Lexeme) :
    ∀ last ∈ (placed start lexemes).getLast?, last.stop = start.after (textOf lexemes) := by
  induction lexemes generalizing start with
  | nil => simp [placed]
  | cons lexeme lexemes ih =>
      intro last hlast
      cases lexemes with
      | nil =>
          simp only [placed, List.getLast?_singleton, Option.mem_some_iff] at hlast
          subst hlast
          simp [Scanner.scanned]
      | cons following lexemes =>
          rw [placed, placed, List.getLast?_cons_cons, ← placed] at hlast
          rw [ih _ last hlast, textOf_cons lexeme, Position.after_append]

theorem endOffset_getLast?_placed (start : Position) (lexemes : List Lexeme) :
    ∀ last ∈ (placed start lexemes).getLast?,
      last.token.endOffset = (start.after (textOf lexemes)).offset := by
  intro last hlast
  obtain ⟨earlier, lexeme, later, -, rfl⟩ := mem_placed (List.mem_of_getLast? hlast)
  rw [← stop_getLast?_placed start lexemes _ hlast]
  rfl

@[simp] theorem slice_append (before text after : List Char) :
    slice (String.ofList (before ++ (text ++ after))) before.length (before.length + text.length) =
      String.ofList text := by
  have hlength : ((before.length : Int) + text.length).toNat - before.length = text.length := by
    omega
  simp [slice, hlength]

/-- The tokens of any source tile it. -/
theorem tiles_allTokens (stream : TokenStream) : Tiles stream.source stream.allTokens where
  nonempty := by
    intro token htoken
    obtain ⟨earlier, lexeme, later, -, rfl⟩ := mem_allTokens htoken
    simpa [Scanner.scanned] using lexeme.text_ne_nil
  starts := by
    intro token htoken
    rw [List.head?_eq_getElem?, getElem?_allTokens, Option.mem_def,
      Option.map_eq_some_iff] at htoken
    obtain ⟨lexeme, -, rfl⟩ := htoken
    rfl
  adjoin := by
    rw [TokenStream.allTokens, stream.scan_eq_placed]
    exact isChain_placed _ _
  ends := by
    intro token htoken
    rw [TokenStream.allTokens, List.getLast?_map, stream.scan_eq_placed, Option.mem_def,
      Option.map_eq_some_iff] at htoken
    obtain ⟨last, hlast, rfl⟩ := htoken
    rw [endOffset_getLast?_placed _ _ last hlast, TokenStream.textOf_lexemes, Position.offset_after]
    simp [Position.origin, String.length_toList]
  cuts := by
    intro token htoken
    obtain ⟨earlier, lexeme, later, hlexemes, rfl⟩ := mem_allTokens htoken
    have hsource : stream.source =
        String.ofList (textOf earlier ++ (lexeme.text ++ textOf later)) := by
      rw [← textOf_cons, ← textOf_append, ← hlexemes, TokenStream.textOf_lexemes,
        String.ofList_toList]
    rw [hsource]
    simp only [Scanner.scanned, Position.offset_after, Position.origin, Int.zero_add]
    exact (slice_append _ _ _).symm
  covers := by
    have htexts : stream.allTokens.map Token.text = stream.lexemes.map (·.content.1) := by
      have hcontents := congrArg (List.map Prod.fst) stream.content_allTokens
      rw [List.map_map, List.map_map] at hcontents
      exact hcontents
    rw [htexts, ← String.toList_inj, ← TokenStream.textOf_lexemes]
    simp [textOf, Lexeme.content, List.flatMap_def, Function.comp_def]

end ShaderTokens
