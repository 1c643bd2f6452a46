import Mathlib.Data.List.Forall2
import Mathlib.Order.Bounds.Basic
import ShaderTokens.Proofs.OpenConstruct

/-!
# Closing delimiters

A string reaches through the first quote behind its opening one that is not escaped, and a block
comment through the first closing delimiter behind its opening one.  Where there is none, both reach
to the end of the source.
-/

namespace ShaderTokens

/-! ## Reaching through a delimiter -/

/-- What ends at `stop` reaches through the first place where it can be closed, by a delimiter of
the given width, and to the end of the text if there is no such place. -/
def ReachesThrough (closes : Nat → Prop) (width length stop : Nat) : Prop :=
  (∃ index, IsLeast {index | closes index} index ∧ stop = index + width) ∨
    (∀ index, ¬ closes index) ∧ stop = length

theorem isLeast_add {within beyond : Nat → Prop} {least count : Nat}
    (h : IsLeast {index | within index} least) (hbelow : ∀ index, beyond index → count ≤ index)
    (hshift : ∀ index, beyond (index + count) ↔ within index) :
    IsLeast {index | beyond index} (least + count) := by
  refine ⟨(hshift least).mpr h.1, ?_⟩
  intro other hother
  obtain ⟨rest, rfl⟩ := Nat.exists_eq_add_of_le' (hbelow other hother)
  exact Nat.add_le_add_right (h.2 ((hshift rest).mp hother)) count

theorem ReachesThrough.add {within closes : Nat → Prop} {width length stop : Nat}
    (h : ReachesThrough within width length stop) {count : Nat}
    (hbelow : ∀ index, closes index → count ≤ index)
    (hshift : ∀ index, closes (index + count) ↔ within index) :
    ReachesThrough closes width (length + count) (stop + count) := by
  rcases h with ⟨index, hindex, rfl⟩ | ⟨hopen, rfl⟩
  · exact .inl ⟨index + count, isLeast_add hindex hbelow hshift, by omega⟩
  · refine .inr ⟨fun other hother => ?_, rfl⟩
    obtain ⟨rest, rfl⟩ := Nat.exists_eq_add_of_le' (hbelow other hother)
    exact hopen rest ((hshift rest).mp hother)

theorem reachesThrough_zero {closes : Nat → Prop} (h : closes 0) (width length : Nat) :
    ReachesThrough closes width length width :=
  .inl ⟨0, ⟨h, fun index _ => Nat.zero_le index⟩, (Nat.zero_add width).symm⟩

/-! ## Bodies -/

def IsClosingQuote (body : List Char) (index : Nat) : Prop :=
  body[index]? = some '"' ∧ ¬ EndsInEscape (body.take index)

def IsClosingMark (body : List Char) (index : Nat) : Prop :=
  body[index]? = some '*' ∧ body[index + 1]? = some '/'

private theorem isClosingQuote_add_two (char : Char) (others : List Char) (index : Nat) :
    IsClosingQuote ('\\' :: char :: others) (index + 2) ↔ IsClosingQuote others index := by
  simp only [IsClosingQuote, List.getElem?_cons_succ, List.take_succ_cons, endsInEscape_pair]

/-- A backslash that is the last character escapes nothing. -/
theorem isClosingQuote_add_one {char : Char} {others : List Char}
    (hescape : char = '\\' → others = []) (index : Nat) :
    IsClosingQuote (char :: others) (index + 1) ↔ IsClosingQuote others index := by
  simp only [IsClosingQuote, List.getElem?_cons_succ, List.take_succ_cons]
  by_cases hchar : char = '\\'
  · simp [hescape hchar]
  · rw [endsInEscape_cons hchar]

namespace Lexeme

private theorem reachesThrough_stringBody (body : List Char) :
    ReachesThrough (IsClosingQuote body) 1 body.length (stringBody body).text.length := by
  fun_induction stringBody body with
  | case1 => exact .inr ⟨by simp [IsClosingQuote], rfl⟩
  | case2 others => exact reachesThrough_zero ⟨rfl, not_endsInEscape_nil⟩ _ _
  | case3 char others ih =>
      refine ih.add ?_ (isClosingQuote_add_two char others)
      rintro (_ | _ | index) ⟨hquote, hescape⟩
      · simp at hquote
      · exact absurd endsInEscape_backslash hescape
      · exact Nat.le_add_left 2 index
  | case4 char others hquote hescape ih =>
      have hlast : char = '\\' → others = [] := by
        intro hchar
        cases others with
        | nil => rfl
        | cons next others => exact (hescape next others hchar rfl).elim
      refine ih.add ?_ (isClosingQuote_add_one hlast)
      rintro (_ | index) ⟨hfirst, -⟩
      · exact absurd (Option.some.inj hfirst) hquote
      · exact Nat.le_add_left 1 index

private theorem reachesThrough_blockCommentBody (body : List Char) :
    ReachesThrough (IsClosingMark body) 2 body.length (blockCommentBody body).text.length := by
  fun_induction blockCommentBody body with
  | case1 => exact .inr ⟨by simp [IsClosingMark], rfl⟩
  | case2 others => exact reachesThrough_zero ⟨rfl, rfl⟩ _ _
  | case3 char others hcloses ih =>
      refine ih.add ?_ fun index => Iff.rfl
      rintro (_ | index) ⟨hstar, hslash⟩
      · obtain ⟨after, rfl⟩ := List.head?_eq_some_iff.mp (List.head?_eq_getElem?.trans hslash)
        exact absurd rfl (hcloses after (Option.some.inj hstar))
      · exact Nat.le_add_left 1 index

end Lexeme

/-! ## Marks -/

def SameMarks (marks first second : List Char) : Prop :=
  List.Forall₂ (fun char other => ∀ mark ∈ marks, char = mark ↔ other = mark) first second

namespace Lexeme

private theorem length_stringBody_of_sameMarks {body other : List Char}
    (h : SameMarks ['"', '\\'] body other) :
    (stringBody other).text.length = (stringBody body).text.length := by
  simp only [SameMarks, List.mem_cons, List.not_mem_nil, or_false, forall_eq_or_imp,
    forall_eq] at h
  fun_induction stringBody body generalizing other with
  | case1 =>
      cases h
      rfl
  | case2 others =>
      cases h with
      | cons hmarks =>
          obtain rfl := hmarks.1.mp rfl
          rfl
  | case3 char others ih =>
      cases h with
      | cons hmarks hothers =>
          obtain rfl := hmarks.2.mp rfl
          cases hothers with
          | cons _ hothers => simp [stringBody, Delimited.cons, ih hothers]
  | case4 char others hquote hescape ih =>
      cases h with
      | @cons _ first _ rest hmarks hothers =>
          have hfirst : first ≠ '"' := mt hmarks.1.mpr hquote
          have hrest : ∀ next following, first = '\\' → rest = next :: following → False := by
            rintro next following hslash rfl
            cases hothers with
            | cons => exact hescape _ _ (hmarks.2.mpr hslash) rfl
          rw [stringBody]
          · simp [Delimited.cons, ih hothers]
          · exact hfirst
          · exact hrest

private theorem length_blockCommentBody_of_sameMarks {body other : List Char}
    (h : SameMarks ['*', '/'] body other) :
    (blockCommentBody other).text.length = (blockCommentBody body).text.length := by
  simp only [SameMarks, List.mem_cons, List.not_mem_nil, or_false, forall_eq_or_imp,
    forall_eq] at h
  fun_induction blockCommentBody body generalizing other with
  | case1 =>
      cases h
      rfl
  | case2 others =>
      cases h with
      | cons hstar hothers =>
          cases hothers with
          | cons hslash =>
              obtain rfl := hstar.1.mp rfl
              obtain rfl := hslash.2.mp rfl
              rfl
  | case3 char others hcloses ih =>
      cases h with
      | @cons _ first _ rest hmarks hothers =>
          have hrest : ∀ following, first = '*' → rest = '/' :: following → False := by
            rintro following hstar rfl
            cases hothers with
            | cons hslash =>
                exact hcloses _ (hmarks.1.mpr hstar) (congrArg (· :: _) (hslash.2.mpr rfl))
          rw [blockCommentBody]
          · simp [Delimited.cons, ih hothers]
          · exact hrest

end Lexeme

/-! ## Tokens with delimiters -/

/-- A quote at an index closes the string that opens at `start`: it stands behind the opening quote,
and the number of backslashes right before it, those behind the opening quote, is even. -/
def ClosesString (source : List Char) (start index : Nat) : Prop :=
  start < index ∧ source[index]? = some '"' ∧
    ¬ EndsInEscape ((source.take index).drop (start + 1))

def ClosesComment (source : List Char) (start index : Nat) : Prop :=
  start + 2 ≤ index ∧ source[index]? = some '*' ∧ source[index + 1]? = some '/'

private theorem closesString_add (source : List Char) (start index : Nat) :
    ClosesString source start (index + (start + 1)) ↔
      IsClosingQuote (source.drop (start + 1)) index := by
  rw [ClosesString, IsClosingQuote, List.drop_take, List.getElem?_drop, Nat.add_sub_cancel,
    Nat.add_comm (start + 1)]
  exact and_iff_right (by omega)

private theorem closesComment_add (source : List Char) (start index : Nat) :
    ClosesComment source start (index + (start + 2)) ↔
      IsClosingMark (source.drop (start + 2)) index := by
  have hnext : start + 2 + (index + 1) = index + (start + 2) + 1 := by omega
  rw [ClosesComment, IsClosingMark, List.getElem?_drop, List.getElem?_drop, hnext,
    Nat.add_comm (start + 2)]
  exact and_iff_right (by omega)

section Place

variable {source body : List Char} (front : List Char) {start : Nat}

theorem drop_add_of_drop (hdrop : source.drop start = front ++ body) :
    source.drop (start + front.length) = body := by
  rw [← List.drop_drop, hdrop, List.drop_left]

theorem length_add_of_drop (hdrop : source.drop start = front ++ body) (hfront : front ≠ []) :
    body.length + (start + front.length) = source.length := by
  have hlength := congrArg List.length hdrop
  have hpositive := List.length_pos_iff.mpr hfront
  rw [List.length_drop, List.length_append] at hlength
  omega

end Place

section Token

variable {stream : TokenStream} {token : Token} (htoken : token ∈ stream.allTokens)

include htoken

theorem exists_drop_of_stringLiteral (hcategory : token.category = .stringLiteral) :
    ∃ body, stream.source.toList.drop token.startOffset.toNat = '"' :: body := by
  obtain ⟨context, first, others, lexeme, hdrop, hform, hcontent⟩ :=
    exists_form_of_mem_allTokens htoken
  have hlexeme : lexeme.category = .stringLiteral :=
    (congrArg Prod.snd hcontent).symm.trans hcategory
  obtain ⟨rfl, -⟩ := Lexeme.eq_stringLiteral_of_form hform hlexeme
  exact ⟨others, hdrop⟩

theorem toList_text_of_quote {body : List Char}
    (hdrop : stream.source.toList.drop token.startOffset.toNat = '"' :: body) :
    token.text.toList = '"' :: (Lexeme.stringBody body).text := by
  obtain ⟨context, htext⟩ := exists_toList_text_of_drop htoken hdrop
  rw [htext, Lexeme.read_stringLiteral]
  rfl

theorem toList_text_of_comment {body : List Char}
    (hdrop : stream.source.toList.drop token.startOffset.toNat = '/' :: '*' :: body) :
    token.text.toList = '/' :: '*' :: (Lexeme.blockCommentBody body).text := by
  obtain ⟨context, htext⟩ := exists_toList_text_of_drop htoken hdrop
  rw [htext, Lexeme.read_blockComment]
  rfl

end Token

/-- Strings and block comments end where they are closed.  Nothing but the marks that can close or
escape has a say in this: not the line feeds, not the other characters, not the lexicon, and not
what comes before. -/
structure EndsWhereClosed (stream : TokenStream) : Prop where
  strings : ∀ token ∈ stream.allTokens, token.category = .stringLiteral →
    ∃ stop, ReachesThrough (ClosesString stream.source.toList token.startOffset.toNat) 1
        stream.source.length stop ∧ token.endOffset = stop
  blockComments : ∀ token ∈ stream.allTokens, token.category = .comment →
    ['/', '*'] <+: token.text.toList →
      ∃ stop, ReachesThrough (ClosesComment stream.source.toList token.startOffset.toNat) 2
          stream.source.length stop ∧ token.endOffset = stop
  alikeStrings : ∀ token ∈ stream.allTokens, token.category = .stringLiteral →
    ∀ other : TokenStream, ∀ token' ∈ other.allTokens,
      SameMarks ['"', '\\'] (stream.source.toList.drop token.startOffset.toNat)
          (other.source.toList.drop token'.startOffset.toNat) →
        token'.text.length = token.text.length
  alikeComments : ∀ token ∈ stream.allTokens, token.category = .comment →
    ['/', '*'] <+: token.text.toList → ∀ other : TokenStream, ∀ token' ∈ other.allTokens,
      SameMarks ['*', '/'] (stream.source.toList.drop token.startOffset.toNat)
          (other.source.toList.drop token'.startOffset.toNat) →
        token'.text.length = token.text.length

theorem endsWhereClosed (stream : TokenStream) : EndsWhereClosed stream where
  strings := by
    intro token htoken hcategory
    obtain ⟨body, hdrop⟩ := exists_drop_of_stringLiteral htoken hcategory
    have hbody : stream.source.toList.drop (token.startOffset.toNat + 1) = body :=
      drop_add_of_drop ['"'] hdrop
    have hlength : body.length + (token.startOffset.toNat + 1) = stream.source.toList.length :=
      length_add_of_drop ['"'] hdrop (by simp)
    have hshift := hbody ▸ closesString_add stream.source.toList token.startOffset.toNat
    have hextent := (Lexeme.reachesThrough_stringBody body).add (fun _ h => h.1) hshift
    rw [hlength, String.length_toList] at hextent
    refine ⟨_, hextent, ?_⟩
    rw [endOffset_of_mem_allTokens htoken, toList_text_of_quote htoken hdrop, List.length_cons]
    omega
  blockComments := by
    intro token htoken _ hopens
    obtain ⟨body, hdrop : _ = '/' :: '*' :: body⟩ := exists_drop_of_isPrefix htoken hopens
    have hbody : stream.source.toList.drop (token.startOffset.toNat + 2) = body :=
      drop_add_of_drop ['/', '*'] hdrop
    have hlength : body.length + (token.startOffset.toNat + 2) = stream.source.toList.length :=
      length_add_of_drop ['/', '*'] hdrop (by simp)
    have hshift := hbody ▸ closesComment_add stream.source.toList token.startOffset.toNat
    have hextent := (Lexeme.reachesThrough_blockCommentBody body).add (fun _ h => h.1) hshift
    rw [hlength, String.length_toList] at hextent
    refine ⟨_, hextent, ?_⟩
    rw [endOffset_of_mem_allTokens htoken, toList_text_of_comment htoken hdrop, List.length_cons,
      List.length_cons]
    omega
  alikeStrings := by
    intro token htoken hcategory other token' htoken' hmarks
    obtain ⟨body, hdrop⟩ := exists_drop_of_stringLiteral htoken hcategory
    rw [hdrop] at hmarks
    obtain ⟨char, body', hchar, hbody, hdrop'⟩ := List.forall₂_cons_left_iff.mp hmarks
    obtain rfl : char = '"' := (hchar '"' (by simp)).mp rfl
    rw [← String.length_toList, ← String.length_toList, toList_text_of_quote htoken hdrop,
      toList_text_of_quote htoken' hdrop', List.length_cons, List.length_cons,
      Lexeme.length_stringBody_of_sameMarks hbody]
  alikeComments := by
    intro token htoken _ hopens other token' htoken' hmarks
    obtain ⟨body, hdrop : _ = '/' :: '*' :: body⟩ := exists_drop_of_isPrefix htoken hopens
    rw [hdrop] at hmarks
    obtain ⟨char, rest, hchar, hrest, hdrop'⟩ := List.forall₂_cons_left_iff.mp hmarks
    obtain ⟨next, body', hnext, hbody, rfl⟩ := List.forall₂_cons_left_iff.mp hrest
    obtain rfl : char = '/' := (hchar '/' (by simp)).mp rfl
    obtain rfl : next = '*' := (hnext '*' (by simp)).mp rfl
    rw [← String.length_toList, ← String.length_toList, toList_text_of_comment htoken hdrop,
      toList_text_of_comment htoken' hdrop', List.length_cons, List.length_cons,
      List.length_cons, List.length_cons, Lexeme.length_blockCommentBody_of_sameMarks hbody]

end ShaderTokens
