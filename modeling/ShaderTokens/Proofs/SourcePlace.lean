import Mathlib.Data.List.DropRight
import Mathlib.Data.Prod.Lex
import ShaderTokens.Text.Line
import ShaderTokens.Proofs.Tiling

/-!
# Places in a source

A position counts line feeds, and characters since the last one.  Positions that are reached by
reading on come later in the order of lines and columns.
-/

namespace ShaderTokens

/-! ## Lines and columns -/

namespace Position

theorem line_after (position : Position) (text : List Char) :
    (position.after text).line = position.line + text.count '\n' := by
  induction text generalizing position with
  | nil => simp
  | cons char text ih =>
      rw [after_cons, ih]
      by_cases hchar : char = '\n'
      · simp [advance, hchar]
        omega
      · simp [advance, hchar]

theorem column_after_of_notMem (position : Position) {text : List Char} (h : '\n' ∉ text) :
    (position.after text).column = position.column + text.length := by
  induction text generalizing position with
  | nil => simp
  | cons char text ih =>
      obtain ⟨hchar, htext⟩ := not_or.mp (mt List.mem_cons.mpr h)
      rw [after_cons, ih _ htext]
      simp [advance, Ne.symm hchar]
      omega

private theorem column_after_origin (text : List Char) :
    (origin.after text).column = 1 + (text.rtakeWhile (· ≠ '\n')).length := by
  induction text using List.reverseRecOn with
  | nil => rfl
  | append_singleton text char ih =>
      rw [after_append, List.rtakeWhile_concat]
      by_cases hchar : char = '\n'
      · simp [advance, hchar]
      · simp [advance, hchar, ih]
        omega

/-! ## The order of places -/

/-- Line and column, both counted from 0, in the order in which a text is read. -/
def place (position : Position) : ℤ ×ₗ ℤ := toLex (position.line - 1, position.column - 1)

theorem place_lt_place_advance (position : Position) (char : Char) :
    position.place < (position.advance char).place := by
  rw [place, place, Prod.Lex.toLex_lt_toLex]
  by_cases hchar : char = '\n'
  · left
    simp only [advance, hchar, if_true]
    omega
  · right
    simp only [advance, hchar, if_false, true_and]
    omega

theorem place_le_place_after (position : Position) (text : List Char) :
    position.place ≤ (position.after text).place := by
  induction text generalizing position with
  | nil => exact le_rfl
  | cons char text ih => exact (position.place_lt_place_advance char).le.trans (ih _)

theorem place_lt_place_after (position : Position) {text : List Char} (h : text ≠ []) :
    position.place < (position.after text).place := by
  obtain ⟨char, others, rfl⟩ := List.exists_cons_of_ne_nil h
  exact (position.place_lt_place_advance char).trans_le (place_le_place_after _ others)

theorem offset_after_origin (text : List Char) :
    (origin.after text).offset = text.length := by
  simp [origin]

theorem place_after_origin (text : List Char) :
    (origin.after text).place =
      toLex ((text.count '\n' : ℤ), ((text.rtakeWhile (· ≠ '\n')).length : ℤ)) := by
  have hline := origin.line_after text
  have hcolumn := column_after_origin text
  have horigin : origin.line = 1 := rfl
  rw [place, show (origin.after text).line - 1 = text.count '\n' by omega, hcolumn, Int.add_comm,
    Int.add_sub_cancel]

end Position

/-! ## Lines of a text -/

namespace Text

def lineOf (text : List Char) (index : Nat) : Nat := (text.take index).count '\n'

def columnOf (text : List Char) (index : Nat) : Nat :=
  ((text.take index).rtakeWhile (· ≠ '\n')).length

private theorem ontoFirstLine_ontoFirstLine (first second : List Char) (lines : List (List Char)) :
    ontoFirstLine first (ontoFirstLine second lines) = ontoFirstLine (first ++ second) lines := by
  cases lines <;> simp [ontoFirstLine]

@[simp] theorem ontoFirstLine_nil_between (separator : Char) (text : List Char) :
    ontoFirstLine [] (between separator text) = between separator text := by
  cases hlines : between separator text with
  | nil => exact absurd hlines (between_ne_nil separator text)
  | cons line lines => simp [ontoFirstLine]

theorem drop_between_append (separator : Char) (before after : List Char) :
    (between separator (before ++ after)).drop (before.count separator) =
      ontoFirstLine (before.rtakeWhile (· ≠ separator)) (between separator after) := by
  induction before using List.reverseRecOn generalizing after with
  | nil => simp
  | append_singleton before char ih =>
      rw [List.append_assoc, List.singleton_append, List.rtakeWhile_concat, List.count_append]
      have hline := ih (char :: after)
      by_cases hchar : char = separator
      · subst hchar
        have hdrop := congrArg (List.drop 1) hline
        rw [List.drop_drop, between, if_pos rfl, ontoFirstLine, List.drop_succ_cons,
          List.drop_zero] at hdrop
        simpa using hdrop
      · rw [between, if_neg hchar, ontoFirstLine_ontoFirstLine] at hline
        simpa [hchar, List.count_singleton] using hline

@[simp] private theorem head?_between (separator : Char) (text : List Char) :
    (between separator text).head? = some (text.takeWhile (· ≠ separator)) := by
  induction text with
  | nil => rfl
  | cons char text ih =>
      rw [between]
      by_cases hchar : char = separator
      · simp [hchar]
      · obtain ⟨lines, hlines⟩ := List.head?_eq_some_iff.mp ih
        simp [hchar, hlines, ontoFirstLine]

theorem getElem?_between (separator : Char) (before after : List Char) :
    (between separator (before ++ after))[before.count separator]? =
      some (before.rtakeWhile (· ≠ separator) ++ after.takeWhile (· ≠ separator)) := by
  obtain ⟨lines, hlines⟩ := List.head?_eq_some_iff.mp (head?_between separator after)
  rw [← List.head?_drop, drop_between_append, hlines]
  rfl

theorem takeWhile_append_of_notMem {separator : Char} {line : List Char} (h : separator ∉ line)
    (rest : List Char) :
    (line ++ rest).takeWhile (· ≠ separator) = line ++ rest.takeWhile (· ≠ separator) := by
  refine List.takeWhile_append_of_pos fun char hchar => decide_eq_true ?_
  rintro rfl
  exact h hchar

theorem intercalate_cons_of_ne_nil (line : List Char) {lines : List (List Char)}
    (h : lines ≠ []) :
    ['\n'].intercalate (line :: lines) = line ++ ['\n'] ++ ['\n'].intercalate lines := by
  obtain ⟨second, others, rfl⟩ := List.exists_cons_of_ne_nil h
  exact List.intercalate_cons_cons

theorem isPrefix_intercalate_cons (line : List Char) (lines : List (List Char)) :
    line <+: ['\n'].intercalate (line :: lines) := by
  cases lines with
  | nil => rw [List.intercalate_singleton]
  | cons second lines =>
      rw [List.intercalate_cons_cons, List.append_assoc]
      exact List.prefix_append _ _

theorem eq_append_of_intercalate_cons {line before rest : List Char} {lines : List (List Char)}
    (hline : '\n' ∉ line) (h : ['\n'].intercalate (line :: lines) = before ++ rest) :
    line = before ++ rest.takeWhile (· ≠ '\n') ∨
      ∃ behind, before = line ++ ['\n'] ++ behind ∧ ['\n'].intercalate lines = behind ++ rest := by
  by_cases hlines : lines = []
  · subst hlines
    rw [List.intercalate_singleton] at h
    have hrest : '\n' ∉ rest := fun hfeed => hline (h ▸ List.mem_append_right before hfeed)
    have htake := takeWhile_append_of_notMem hrest []
    rw [List.append_nil, List.takeWhile_nil, List.append_nil] at htake
    left
    rw [htake, h]
  · rw [intercalate_cons_of_ne_nil line hlines, List.append_assoc,
      List.append_eq_append_iff] at h
    rcases h with ⟨behind, rfl, hrest⟩ | ⟨onLine, heq, rfl⟩
    · cases behind with
      | nil =>
          left
          rw [List.nil_append] at hrest
          simp [← hrest]
      | cons feed behind =>
          right
          obtain ⟨rfl, hbehind⟩ := List.cons.inj hrest
          exact ⟨behind, by simp, hbehind⟩
    · have honLine : '\n' ∉ onLine := fun hfeed =>
        hline (heq ▸ List.mem_append_right before hfeed)
      left
      rw [takeWhile_append_of_notMem honLine]
      simpa using heq

/-! ## The end of a line -/

theorem length_lt_dropTrailing_iff (last : Char) (before after : List Char) :
    before.length < (dropTrailing last (before ++ after)).length ↔ after.any (· ≠ last) := by
  have hnil : after.reverse.dropWhile (· = last) = [] ↔ ¬ after.any (· ≠ last) := by
    simp [List.dropWhile_eq_nil_iff]
  rw [dropTrailing, List.length_reverse, List.reverse_append, List.dropWhile_append]
  by_cases hany : after.any (· ≠ last)
  · have hnonempty := mt hnil.mp (not_not.mpr hany)
    have hpositive := List.length_pos_iff.mpr hnonempty
    refine iff_of_true ?_ hany
    rw [if_neg (by simpa using hnonempty), List.length_append, List.length_reverse]
    omega
  · have hle := List.length_dropWhile_le (· = last) before.reverse
    rw [List.length_reverse] at hle
    refine iff_of_false ?_ hany
    simp only [hnil.mpr hany, List.isEmpty_nil, if_true]
    omega

theorem dropTrailing_isPrefix (last : Char) (text : List Char) : dropTrailing last text <+: text :=
  List.rdropWhile_prefix _ text

end Text

end ShaderTokens
