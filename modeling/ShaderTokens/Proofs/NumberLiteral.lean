import Mathlib.Data.List.Infix
import Mathlib.Data.List.TakeWhile
import ShaderTokens.Lexeme.Number

/-!
# Extent of number literals

A number is a front part of the text it is read from.  It is settled by the characters that can
stand in a number: whatever begins with another character can be replaced without changing it.
-/

namespace ShaderTokens

/-! ## Pieces of a list -/

section Pieces

variable {Item : Type}

def StopsAt (isMember : Item → Bool) (rest : List Item) : Prop :=
  ∀ item ∈ rest.head?, isMember item = false

@[simp] theorem stopsAt_nil (isMember : Item → Bool) : StopsAt isMember [] := by
  intro item hitem
  simp at hitem

@[simp] theorem stopsAt_cons {isMember : Item → Bool} {item : Item} {rest : List Item} :
    StopsAt isMember (item :: rest) ↔ isMember item = false := by
  simp [StopsAt]

theorem StopsAt.mono {isMember isOther : Item → Bool} {rest : List Item}
    (h : StopsAt isMember rest) (hle : ∀ item, isOther item = true → isMember item = true) :
    StopsAt isOther rest := by
  intro item hitem
  by_contra hother
  have hmember := hle item (by simpa using hother)
  rw [h item hitem] at hmember
  contradiction

theorem takeWhile_append_of_stopsAt {isMember : Item → Bool} (items : List Item)
    {rest : List Item} (h : StopsAt isMember rest) :
    (items ++ rest).takeWhile isMember = items.takeWhile isMember := by
  induction items with
  | nil =>
      cases rest with
      | nil => rfl
      | cons item rest => simp [h item (by simp)]
  | cons item items ih => simp [List.takeWhile_cons, ih]

theorem takeWhile_eq_nil_iff_stopsAt {isMember : Item → Bool} {items : List Item} :
    items.takeWhile isMember = [] ↔ StopsAt isMember items := by
  cases items with
  | nil => simp
  | cons item items => cases hitem : isMember item <;> simp [hitem]

theorem drop_append_of_isPrefix {first whole : List Item} (h : first <+: whole)
    (rest : List Item) :
    (whole ++ rest).drop first.length = whole.drop first.length ++ rest :=
  List.drop_append_of_le_length h.length_le

theorem append_isPrefix {first second whole : List Item} (hfirst : first <+: whole)
    (hsecond : second <+: whole.drop first.length) : first ++ second <+: whole := by
  rw [List.prefix_iff_eq_append] at hfirst
  rw [← hfirst]
  simpa using hsecond

end Pieces

namespace Lexeme.Number

/-! ## Numbers are front parts -/

theorem digits_isPrefix (chars : List Char) : digits chars <+: chars :=
  List.takeWhile_prefix _

theorem suffix_isPrefix (isMember : Char → Bool) (chars : List Char) :
    suffix isMember chars <+: chars := by
  fun_cases suffix isMember chars with
  | case1 => exact List.prefix_rfl
  | case2 char others _ => exact ⟨others, rfl⟩
  | case3 => exact List.nil_prefix

theorem suffix_eq_nil_iff {isMember : Char → Bool} {chars : List Char} :
    suffix isMember chars = [] ↔ StopsAt isMember chars := by
  cases chars with
  | nil => simp [suffix]
  | cons char chars => cases hchar : isMember char <;> simp [suffix, hchar]

theorem signedDigits?_isPrefix {chars power : List Char} (h : signedDigits? chars = some power) :
    power <+: chars := by
  simp only [signedDigits?, Option.ite_none_left_eq_some, Option.some.injEq] at h
  obtain ⟨-, rfl⟩ := h
  exact append_isPrefix (suffix_isPrefix _ _) (digits_isPrefix _)

theorem exponent?_isPrefix {chars power : List Char} (h : exponent? chars = some power) :
    power <+: chars := by
  cases chars with
  | nil => simp [exponent?] at h
  | cons mark chars =>
      simp only [exponent?, Option.ite_none_right_eq_some, Option.map_eq_some_iff] at h
      obtain ⟨-, signed, hsigned, rfl⟩ := h
      simpa using signedDigits?_isPrefix hsigned

theorem realTail_isPrefix (chars : List Char) : realTail chars <+: chars := by
  have hexponent : (exponent? chars).getD [] <+: chars := by
    cases hfound : exponent? chars with
    | none => exact List.nil_prefix
    | some power => exact exponent?_isPrefix hfound
  exact append_isPrefix hexponent (suffix_isPrefix _ _)

theorem hexadecimal?_isPrefix {chars number : List Char} (h : hexadecimal? chars = some number) :
    number <+: chars := by
  unfold hexadecimal? at h
  split at h
  · next mark others =>
    simp only [Option.ite_none_right_eq_some, Option.ite_none_left_eq_some,
      Option.some.injEq] at h
    obtain ⟨-, -, rfl⟩ := h
    simpa using append_isPrefix (List.takeWhile_prefix Text.Hex.isDigit)
      (List.takeWhile_prefix isWholeSuffix)
  · contradiction

theorem pointed?_isPrefix {chars number : List Char} (h : pointed? chars = some number) :
    number <+: chars := by
  unfold pointed? at h
  dsimp only at h
  split at h
  · next others hothers =>
    simp only [Option.ite_none_left_eq_some, Option.some.injEq] at h
    obtain ⟨-, rfl⟩ := h
    rw [List.append_assoc]
    apply append_isPrefix (digits_isPrefix chars)
    rw [hothers]
    simpa using append_isPrefix (digits_isPrefix others) (realTail_isPrefix _)
  · contradiction

theorem scientific?_isPrefix {chars number : List Char} (h : scientific? chars = some number) :
    number <+: chars := by
  simp only [scientific?, Option.ite_none_left_eq_some, Option.map_eq_some_iff] at h
  obtain ⟨-, power, hpower, rfl⟩ := h
  have hfront := append_isPrefix (digits_isPrefix chars) (exponent?_isPrefix hpower)
  exact append_isPrefix hfront (suffix_isPrefix _ _)

theorem whole?_isPrefix {chars number : List Char} (h : whole? chars = some number) :
    number <+: chars := by
  simp only [whole?, Option.ite_none_left_eq_some, Option.some.injEq] at h
  obtain ⟨-, rfl⟩ := h
  apply append_isPrefix (digits_isPrefix chars)
  split
  · exact suffix_isPrefix _ _
  · exact List.takeWhile_prefix _

end Lexeme.Number

theorem Lexeme.number?_isPrefix {chars number : List Char} (h : number? chars = some number) :
    number <+: chars := by
  simp only [number?, Option.orElse_eq_orElse, Option.orElse_eq_or, Option.or_eq_some_iff] at h
  rcases h with h | ⟨-, h | ⟨-, h | ⟨-, h⟩⟩⟩
  · exact Number.hexadecimal?_isPrefix h
  · exact Number.pointed?_isPrefix h
  · exact Number.scientific?_isPrefix h
  · exact Number.whole?_isPrefix h

namespace Lexeme.Number

/-! ## What follows a number -/

def isPart (char : Char) : Bool := char.isAlphanum || char = '.' || isSign char

theorem isPart_of_isDigit {char : Char} (h : char.isDigit = true) : isPart char = true := by
  simp [isPart, Char.isAlphanum, h]

theorem isPart_of_isHexDigit {char : Char} (h : Text.Hex.isDigit char = true) :
    isPart char = true := by
  have halphanum : char.isAlphanum = true := by
    unfold Char.isAlphanum Char.isAlpha Char.isUpper Char.isLower
    grind [Text.Hex.isDigit, Text.Hex.digitValue?, Char.le_def]
  simp [isPart, halphanum]

theorem isPart_of_isHexMark {char : Char} (h : isHexMark char = true) : isPart char = true := by
  simp only [isHexMark, Bool.or_eq_true, decide_eq_true_eq] at h
  rcases h with rfl | rfl <;> rfl

theorem isPart_of_isExponentMark {char : Char} (h : isExponentMark char = true) :
    isPart char = true := by
  simp only [isExponentMark, Bool.or_eq_true, decide_eq_true_eq] at h
  rcases h with rfl | rfl <;> rfl

theorem isPart_of_isSign {char : Char} (h : isSign char = true) : isPart char = true := by
  simp [isPart, h]

theorem isPart_of_isWholeSuffix {char : Char} (h : isWholeSuffix char = true) :
    isPart char = true := by
  simp only [isWholeSuffix, Bool.or_eq_true, decide_eq_true_eq] at h
  rcases h with ((rfl | rfl) | rfl) | rfl <;> rfl

theorem isPart_of_isHalfSuffix {char : Char} (h : isHalfSuffix char = true) :
    isPart char = true := by
  simp only [isHalfSuffix, Bool.or_eq_true, decide_eq_true_eq] at h
  rcases h with ((rfl | rfl) | rfl) | rfl <;> rfl

theorem isPart_of_isRealSuffix {char : Char} (h : isRealSuffix char = true) :
    isPart char = true := by
  simp only [isRealSuffix, Bool.or_eq_true, decide_eq_true_eq] at h
  rcases h with (hhalf | rfl) | rfl
  · exact isPart_of_isHalfSuffix hhalf
  · rfl
  · rfl

section Append

variable {rest : List Char} (h : StopsAt isPart rest)

include h

theorem digits_append (chars : List Char) : digits (chars ++ rest) = digits chars :=
  takeWhile_append_of_stopsAt chars (h.mono fun _ => isPart_of_isDigit)

theorem suffix_append {isMember : Char → Bool} (chars : List Char)
    (hmember : ∀ char, isMember char = true → isPart char = true) :
    suffix isMember (chars ++ rest) = suffix isMember chars := by
  cases chars with
  | cons char chars => rfl
  | nil => exact suffix_eq_nil_iff.mpr (h.mono hmember)

theorem signedDigits?_append (chars : List Char) :
    signedDigits? (chars ++ rest) = signedDigits? chars := by
  simp only [signedDigits?, suffix_append h chars fun _ => isPart_of_isSign,
    drop_append_of_isPrefix (suffix_isPrefix isSign chars), digits_append h]

theorem exponent?_append (chars : List Char) : exponent? (chars ++ rest) = exponent? chars := by
  cases chars with
  | cons mark chars => simp only [List.cons_append, exponent?, signedDigits?_append h]
  | nil =>
      cases rest with
      | nil => rfl
      | cons mark rest =>
          have hmark := stopsAt_cons.mp (h.mono fun _ => isPart_of_isExponentMark)
          simp [exponent?, hmark]

theorem realTail_append (chars : List Char) : realTail (chars ++ rest) = realTail chars := by
  have hexponent : (exponent? chars).getD [] <+: chars :=
    (List.prefix_append _ _).trans (realTail_isPrefix chars)
  simp only [realTail, exponent?_append h,
    drop_append_of_isPrefix hexponent,
    suffix_append h _ fun _ => isPart_of_isRealSuffix]

theorem hexadecimal?_append (chars : List Char) :
    hexadecimal? (chars ++ rest) = hexadecimal? chars := by
  match chars, rest with
  | chars, [] => rw [List.append_nil]
  | [], first :: rest =>
      have hfirst : first ≠ '0' := by
        rintro rfl
        exact absurd (stopsAt_cons.mp h) (by decide)
      simp [hexadecimal?, hfirst]
  | [first], mark :: rest =>
      have hmark := stopsAt_cons.mp (h.mono fun _ => isPart_of_isHexMark)
      by_cases hfirst : first = '0'
      · simp [hexadecimal?, hfirst, hmark]
      · simp [hexadecimal?, hfirst]
  | first :: mark :: chars, item :: rest =>
      have hhex := takeWhile_append_of_stopsAt chars (h.mono fun _ => isPart_of_isHexDigit)
      have hdrop := drop_append_of_isPrefix
        (List.takeWhile_prefix Text.Hex.isDigit : _ <+: chars) (item :: rest)
      have hletters := takeWhile_append_of_stopsAt
        (chars.drop (chars.takeWhile Text.Hex.isDigit).length)
        (h.mono fun _ => isPart_of_isWholeSuffix)
      by_cases hfirst : first = '0'
      · subst hfirst
        simp only [List.cons_append, hexadecimal?, hhex, hdrop, hletters]
      · simp [hexadecimal?, hfirst]

theorem pointed?_append (chars : List Char) : pointed? (chars ++ rest) = pointed? chars := by
  have hdrop := drop_append_of_isPrefix (digits_isPrefix chars) rest
  simp only [pointed?, digits_append h, hdrop]
  cases hothers : chars.drop (digits chars).length with
  | nil =>
      cases rest with
      | nil => rfl
      | cons point rest =>
          have hpoint : point ≠ '.' := by
            rintro rfl
            exact absurd (stopsAt_cons.mp h) (by decide)
          simp [hpoint]
  | cons point others =>
      by_cases hpoint : point = '.'
      · simp [hpoint, digits_append h, realTail_append h,
          drop_append_of_isPrefix (digits_isPrefix others)]
      · simp [hpoint]

theorem scientific?_append (chars : List Char) :
    scientific? (chars ++ rest) = scientific? chars := by
  have hdrop := drop_append_of_isPrefix (digits_isPrefix chars) rest
  simp only [scientific?, digits_append h, hdrop, exponent?_append h]
  cases hpower : exponent? (chars.drop (digits chars).length) with
  | none => rfl
  | some power =>
      have hfront := append_isPrefix (digits_isPrefix chars) (exponent?_isPrefix hpower)
      simp only [Option.map_some, drop_append_of_isPrefix hfront,
        suffix_append h _ fun _ => isPart_of_isRealSuffix]

theorem whole?_append (chars : List Char) : whole? (chars ++ rest) = whole? chars := by
  have hdrop := drop_append_of_isPrefix (digits_isPrefix chars) rest
  simp only [whole?, digits_append h, hdrop, suffix_append h _ fun _ => isPart_of_isHalfSuffix,
    takeWhile_append_of_stopsAt _ (h.mono fun _ => isPart_of_isWholeSuffix)]

end Append

end Lexeme.Number

theorem Lexeme.number?_append {rest : List Char} (h : StopsAt Number.isPart rest)
    (chars : List Char) : number? (chars ++ rest) = number? chars := by
  simp only [number?, Number.hexadecimal?_append h, Number.pointed?_append h,
    Number.scientific?_append h, Number.whole?_append h]

/-! ## Where numbers start -/

namespace Lexeme.Number

def startsNumber : List Char → Bool
  | [] => false
  | first :: others => first.isDigit || first = '.' && others.head?.any Char.isDigit

theorem digits_cons_eq_nil {first : Char} (h : first.isDigit = false) (others : List Char) :
    digits (first :: others) = [] := by
  simp [digits, h]

private theorem isSome_pointed? {first : Char} (h : first.isDigit = false) (others : List Char) :
    (pointed? (first :: others)).isSome = (first = '.' && others.head?.any Char.isDigit) := by
  unfold pointed?
  simp only [digits_cons_eq_nil h, List.length_nil, List.drop_zero]
  split
  next rest heq =>
    obtain ⟨rfl, rfl⟩ := List.cons.inj heq
    cases others with
    | nil => rfl
    | cons next others => cases hnext : next.isDigit <;> simp [digits, hnext]
  next hpoint =>
    have hfirst : first ≠ '.' := fun heq => hpoint others (by rw [heq])
    simp [hfirst]

private theorem hexadecimal?_cons_eq_none {first : Char} (h : first.isDigit = false)
    (others : List Char) :
    hexadecimal? (first :: others) = none := by
  unfold hexadecimal?
  split
  next heq =>
    obtain ⟨rfl, -⟩ := List.cons.inj heq
    contradiction
  next => rfl

end Lexeme.Number

namespace Lexeme

theorem isSome_number? (chars : List Char) :
    (number? chars).isSome = Number.startsNumber chars := by
  cases chars with
  | nil => rfl
  | cons first others =>
      rw [Number.startsNumber]
      simp only [number?, Option.orElse_eq_orElse, Option.orElse_eq_or, Option.isSome_or]
      cases hdigit : first.isDigit with
      | true =>
          have hwhole : (Number.whole? (first :: others)).isSome = true := by
            simp [Number.whole?, Number.digits, hdigit]
          simp [hwhole]
      | false =>
          have hscientific : Number.scientific? (first :: others) = none := by
            simp [Number.scientific?, Number.digits_cons_eq_nil hdigit]
          have hwhole : Number.whole? (first :: others) = none := by
            simp [Number.whole?, Number.digits_cons_eq_nil hdigit]
          simp [Number.hexadecimal?_cons_eq_none hdigit, Number.isSome_pointed? hdigit, hscientific,
            hwhole]

theorem ne_nil_of_number? {chars number : List Char} (h : number? chars = some number) :
    number ≠ [] := by
  simp only [number?, Option.orElse_eq_orElse, Option.orElse_eq_or, Option.or_eq_some_iff] at h
  rcases h with h | ⟨-, h | ⟨-, h | ⟨-, h⟩⟩⟩
  · unfold Number.hexadecimal? at h
    split at h
    · simp only [Option.ite_none_right_eq_some, Option.ite_none_left_eq_some,
        Option.some.injEq] at h
      obtain ⟨-, -, rfl⟩ := h
      exact List.cons_ne_nil _ _
    · contradiction
  · unfold Number.pointed? at h
    dsimp only at h
    split at h
    · simp only [Option.ite_none_left_eq_some, Option.some.injEq] at h
      obtain ⟨-, rfl⟩ := h
      simp
    · contradiction
  · simp only [Number.scientific?, Option.ite_none_left_eq_some, Option.map_eq_some_iff] at h
    obtain ⟨hwhole, power, -, rfl⟩ := h
    simp_all
  · simp only [Number.whole?, Option.ite_none_left_eq_some, Option.some.injEq] at h
    obtain ⟨hwhole, rfl⟩ := h
    simp_all

theorem startsNumber_eq_false {chars : List Char}
    (h : ∀ digit digits, number? chars ≠ some (digit :: digits)) :
    Number.startsNumber chars = false := by
  rw [← isSome_number?, Option.isSome_eq_false_iff, Option.isNone_iff_eq_none]
  by_contra hsome
  obtain ⟨number, hnumber⟩ := Option.ne_none_iff_exists'.mp hsome
  obtain ⟨digit, digits, rfl⟩ := List.exists_cons_of_ne_nil (ne_nil_of_number? hnumber)
  exact h digit digits hnumber

end Lexeme

end ShaderTokens
