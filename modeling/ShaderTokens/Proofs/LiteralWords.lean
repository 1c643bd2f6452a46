import ShaderTokens.Proofs.WordMatching

/-!
# Literal words

A word without metacharacters is read as its characters, one after another, and is found at the
places of a text where they stand.
-/

namespace ShaderTokens

open Pattern PatternSymbol

/-! ## Places by offset -/

namespace Cursor

def atOffset (text : List Char) (offset : Nat) : Cursor :=
  ⟨(text.take offset).reverse, text.drop offset⟩

variable {text : List Char} {offset : Nat}

theorem atOffset_zero (text : List Char) : atOffset text 0 = ofText text := rfl

theorem offset_atOffset (h : offset ≤ text.length) : (atOffset text offset).offset = offset := by
  simp [atOffset, Cursor.offset, h]

@[simp] theorem length_after_atOffset :
    (atOffset text offset).after.length = text.length - offset := by
  simp [atOffset]

theorem atOffset_of_lt (h : offset < text.length) :
    atOffset text offset =
      ⟨(text.take offset).reverse, text[offset] :: text.drop (offset + 1)⟩ := by
  rw [atOffset, List.drop_eq_getElem_cons h]

theorem atOffset_add_one (h : offset < text.length) :
    atOffset text (offset + 1) =
      ⟨text[offset] :: (text.take offset).reverse, text.drop (offset + 1)⟩ := by
  rw [atOffset, List.take_succ_eq_append_getElem h, List.reverse_append]
  rfl

end Cursor

/-! ## Running literal characters -/

def literalPattern (chars : List Char) : Pattern :=
  sequence (chars.map fun char => Frame.outermost.literal char.toNat)

section Running

variable {text : List Char} {offset : Nat} {accept : Cursor → Option Cursor}

private theorem run_literal (char : Char) (h : offset < text.length) :
    (Frame.outermost.literal char.toNat).run (.atOffset text offset) accept =
      if text[offset] = char then accept (.atOffset text (offset + 1)) else none := by
  have hcontains : CharSet.contains ⟨[.range char.toNat char.toNat], false, false, false⟩
      text[offset] = decide (text[offset] = char) := by
    have hcode : text[offset].toNat = char.toNat ↔ text[offset] = char := Char.toNat_inj
    rw [Bool.eq_iff_iff, decide_eq_true_iff, ← hcode]
    simp [CharSet.contains, CharSet.holds, CharSet.spellings]
    omega
  have hrun : (Frame.outermost.literal char.toNat).run (.atOffset text offset) accept =
      if CharSet.contains ⟨[.range char.toNat char.toNat], false, false, false⟩ text[offset] then
        accept (.atOffset text (offset + 1)) else none := by
    rw [Cursor.atOffset_of_lt h, Cursor.atOffset_add_one h]
    rfl
  rw [hrun, hcontains]
  simp

private theorem run_literal_of_length_le (char : Char) (h : text.length ≤ offset) :
    (Frame.outermost.literal char.toNat).run (.atOffset text offset) accept = none := by
  rw [Cursor.atOffset, List.drop_eq_nil_of_le h]
  rfl

/-- Literal characters match exactly where they stand in the text. -/
theorem run_literalPattern (chars : List Char) :
    (literalPattern chars).run (.atOffset text offset) accept =
      if chars.isPrefixOf (text.drop offset) then accept (.atOffset text (offset + chars.length))
      else none := by
  induction chars generalizing offset with
  | nil => rfl
  | cons char chars ih =>
      have hrun : (literalPattern (char :: chars)).run (.atOffset text offset) accept =
          (Frame.outermost.literal char.toNat).run (.atOffset text offset)
            fun following => (literalPattern chars).run following accept := rfl
      rw [hrun]
      by_cases hlength : offset < text.length
      · have hoffset : offset + 1 + chars.length = offset + (char :: chars).length := by
          rw [List.length_cons]
          omega
        rw [run_literal char hlength, ih, List.drop_eq_getElem_cons hlength,
          List.isPrefixOf_cons_cons, hoffset]
        by_cases hchar : text[offset] = char
        · simp [hchar]
        · simp [hchar, Ne.symm hchar]
      · rw [run_literal_of_length_le char (by omega), List.drop_eq_nil_of_le (by omega)]
        rfl

end Running

/-! ## Reading literal words -/

namespace Pattern

theorem Frame.addLiterals_eq (frame : Frame) (chars : List Char) :
    frame.addLiterals chars =
      { frame with
        items := (chars.map fun char => ⟨frame.literal char.toNat, .other⟩).reverse ++
          frame.items } := by
  induction chars generalizing frame with
  | nil => rfl
  | cons char chars ih =>
      change (frame.addItem _ _).addLiterals chars = _
      rw [ih]
      simp [Frame.addItem, Frame.literal, Frame.charSet]

@[simp] theorem Frame.pattern_addLiterals (chars : List Char) :
    (Frame.outermost.addLiterals chars).pattern = literalPattern chars := by
  rw [Frame.addLiterals_eq]
  simp [Frame.pattern, Frame.outermost, Frame.allBranches, Frame.branch, alternatives,
    literalPattern, Function.comp_def]

private theorem read_literal {word : String} (h : ∀ char ∈ word.toList, isLiteral char = true) :
    Pattern.read word = .ok ⟨literalPattern word.toList, 0⟩ := by
  have hsymbols : ofText word.toList = word.toList.map plain := by
    simpa [ofText] using ofText_append_literals h []
  have hreach : Reaches {} (word.toList.map plain ++ [])
      (Progress.setFrame {} (Frame.outermost.addLiterals word.toList)) [] :=
    reaches_literals h rfl (by simp)
  rw [List.append_nil, ← hsymbols] at hreach
  have hreads : Reads word (Progress.setFrame {} (Frame.outermost.addLiterals word.toList)) := by
    refine ⟨?_, hreach.run_untilDone rfl, by simp [Progress.setFrame], by simp [Progress.setFrame],
      (isPlain_start.frame.addLiterals _).defect?_pattern⟩
    rw [hsymbols]
    cases word.toList <;> simp
  rw [hreads.read_eq_ok.2]
  exact congrArg Except.ok (congrArg₂ Expression.mk (Frame.pattern_addLiterals _) rfl)

theorem ofWord_literal {word : String} (h : ∀ char ∈ word.toList, isLiteral char = true) :
    ofWord word = literalPattern word.toList :=
  ofWord_eq_of_read (read_literal h)

end Pattern

end ShaderTokens
