/-!
# Lines of text

Text is cut after every line terminator: line feeds, carriage returns, the pair of both, vertical
tabs, form feeds, the information separators U+001C to U+001E, U+0085, U+2028 and U+2029.
-/

namespace ShaderTokens.Text

def isLineTerminator (char : Char) : Bool :=
  let code := char.toNat
  (10 ≤ code && code ≤ 13) || (0x1C ≤ code && code ≤ 0x1E) || code == 0x85 || code == 0x2028 ||
    code == 0x2029

def ontoFirstLine (start : List Char) : List (List Char) → List (List Char)
  | [] => [start]
  | line :: others => (start ++ line) :: others

def lines : List Char → List (List Char)
  | [] => []
  | '\r' :: '\n' :: others => ['\r', '\n'] :: lines others
  | char :: others =>
    if isLineTerminator char then [char] :: lines others
    else ontoFirstLine [char] (lines others)

/-- The stretches of a text between the places of a separator, at least one. -/
def between (separator : Char) : List Char → List (List Char)
  | [] => [[]]
  | char :: others =>
    if char = separator then [] :: between separator others
    else ontoFirstLine [char] (between separator others)

def dropTrailing (last : Char) (text : List Char) : List Char :=
  (text.reverse.dropWhile (· = last)).reverse

/-- Removes the line feed at the end, then the carriage returns before it. -/
def withoutTerminator (line : List Char) : List Char :=
  dropTrailing '\r' (dropTrailing '\n' line)

private theorem flatten_ontoFirstLine (start : List Char) (others : List (List Char)) :
    (ontoFirstLine start others).flatten = start ++ others.flatten := by
  cases others <;> simp [ontoFirstLine]

@[simp] theorem flatten_lines (text : List Char) : (lines text).flatten = text := by
  fun_induction lines text <;> simp_all [flatten_ontoFirstLine]

theorem between_ne_nil (separator : Char) (text : List Char) : between separator text ≠ [] := by
  cases text with
  | nil => simp [between]
  | cons char others =>
    rw [between]
    split
    · simp
    · cases between separator others <;> simp [ontoFirstLine]

@[simp] theorem intercalate_between (separator : Char) (text : List Char) :
    [separator].intercalate (between separator text) = text := by
  induction text with
  | nil => simp [between]
  | cons char others hypothesis =>
    obtain ⟨line, lines, hlines⟩ := List.exists_cons_of_ne_nil (between_ne_nil separator others)
    rw [between]
    split
    · next heq => simpa [hlines, heq] using hypothesis
    · cases lines <;> simpa [hlines, ontoFirstLine] using hypothesis

theorem between_append {separator : Char} {line : List Char} (h : separator ∉ line)
    (rest : List Char) :
    between separator (line ++ separator :: rest) = line :: between separator rest := by
  induction line with
  | nil => simp [between]
  | cons char line ih =>
    rw [List.mem_cons, not_or] at h
    obtain ⟨hchar, hline⟩ := h
    rw [List.cons_append, between, if_neg (Ne.symm hchar), ih hline]
    rfl

theorem between_of_notMem {separator : Char} {text : List Char} (h : separator ∉ text) :
    between separator text = [text] := by
  induction text with
  | nil => rfl
  | cons char others ih =>
    rw [List.mem_cons, not_or] at h
    obtain ⟨hchar, hothers⟩ := h
    rw [between, if_neg (Ne.symm hchar), ih hothers]
    rfl

theorem separator_not_mem_of_mem_between {separator : Char} {text line : List Char}
    (h : line ∈ between separator text) : separator ∉ line := by
  induction text generalizing line with
  | nil => simp_all [between]
  | cons char others hypothesis =>
    rw [between] at h
    split at h
    · rcases List.mem_cons.mp h with rfl | h
      · simp
      · exact hypothesis h
    · next hne =>
      cases hlines : between separator others with
      | nil => exact absurd hlines (between_ne_nil separator others)
      | cons first lines =>
        rw [hlines, ontoFirstLine] at h
        rcases List.mem_cons.mp h with rfl | h
        · have := hypothesis (hlines ▸ List.mem_cons_self)
          simp_all [eq_comm]
        · exact hypothesis (hlines ▸ List.mem_cons_of_mem _ h)

end ShaderTokens.Text
