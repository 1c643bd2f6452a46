import Mathlib.Order.Bounds.Basic
import Mathlib.Tactic.IntervalCases
import ShaderTokens.Proofs.BuildOutcome
import ShaderTokens.Proofs.LiteralWords

/-!
# Searching for words

The matcher of a category of literal words finds them from left to right, the longest first where
several stand at one place.  Words that consist of word characters are found exactly where they are
the longest runs of such characters.
-/

namespace ShaderTokens

open Pattern

/-! ## Occurrences -/

section Occurrences

variable (text : List Char)

def isWordAt (offset : Nat) : Bool := text[offset]?.any Unicode.isWord

def isWordBefore : Nat → Bool
  | 0 => false
  | offset + 1 => isWordAt text offset

def isWordBoundary (offset : Nat) : Bool := isWordBefore text offset != isWordAt text offset

def occursAt (start : Nat) (word : String) : Bool :=
  isWordBoundary text start && word.toList.isPrefixOf (text.drop start) &&
    isWordBoundary text (start + word.length)

/-- One of the words stands between two places, with a word boundary at both. -/
def Occurs (words : List String) (start stop : Nat) : Prop :=
  ∃ word ∈ words, occursAt text start word = true ∧ stop = start + word.length

/-- Successive matches from a place on: always the leftmost occurrence, and of those that start
there the longest. -/
inductive LeftmostLongest (words : List String) : Nat → List (Nat × Nat) → Prop
  | finished {offset : Nat}
      (hnone : ∀ start stop, offset ≤ start → ¬ Occurs text words start stop) :
      LeftmostLongest words offset []
  | found {offset start stop : Nat} {others : List (Nat × Nat)}
      (hstart : IsLeast {start | offset ≤ start ∧ ∃ stop, Occurs text words start stop} start)
      (hstop : IsGreatest {stop | Occurs text words start stop} stop)
      (hothers : LeftmostLongest words stop others) :
      LeftmostLongest words offset ((start, stop) :: others)

/-- Nothing but word characters stands between two places, and none on the other side of either. -/
structure IsWordRun (start stop : Nat) : Prop where
  nonempty : start < stop
  inside : ∀ offset, start ≤ offset → offset < stop → isWordAt text offset = true
  before : isWordBefore text start = false
  behind : isWordAt text stop = false

end Occurrences

section Places

variable {text : List Char} {words : List String} {start stop offset : Nat}

private theorem lt_length_of_isWordAt (h : isWordAt text offset = true) : offset < text.length := by
  by_contra hlength
  rw [isWordAt, List.getElem?_eq_none (by omega)] at h
  contradiction

theorem satisfies_wordBoundary (h : offset ≤ text.length) :
    (Cursor.atOffset text offset).satisfies (.wordBoundary false) = isWordBoundary text offset := by
  have hbefore :
      (text.take offset).reverse.head?.any Unicode.isWord = isWordBefore text offset := by
    cases offset with
    | zero => rfl
    | succ offset =>
        rw [List.take_succ_eq_append_getElem h, List.reverse_append, isWordBefore, isWordAt,
          List.getElem?_eq_getElem h]
        rfl
  have hafter : (text.drop offset).head?.any Unicode.isWord = isWordAt text offset := by
    rw [List.head?_drop, isWordAt]
  rw [isWordBoundary, ← hbefore, ← hafter]
  rfl

theorem length_le_of_isPrefixOf {word : String}
    (h : word.toList.isPrefixOf (text.drop start) = true) : word.length ≤ text.length - start := by
  rw [← String.length_toList, ← List.length_drop]
  exact (List.isPrefixOf_iff_prefix.mp h).length_le

theorem Occurs.lt (h : Occurs text words start stop) (hwords : ∀ word ∈ words, word ≠ "") :
    start < stop ∧ stop ≤ text.length := by
  obtain ⟨word, hword, hoccurs, rfl⟩ := h
  have hpositive : 0 < word.length :=
    Nat.pos_of_ne_zero (mt String.length_eq_zero_iff.mp (hwords word hword))
  rw [occursAt, Bool.and_eq_true, Bool.and_eq_true] at hoccurs
  have hlength := length_le_of_isPrefixOf hoccurs.1.2
  omega

end Places

/-! ## Joined words -/

section Joins

variable {text : List Char} {words : List String} {start : Nat}

theorem joinsBefore_iff {first second : String} :
    joinsBefore first second = true ↔
      second.length < first.length ∨ first.length = second.length ∧ first ≤ second := by
  simp [joinsBefore]

private theorem joinsBefore_trans {first second third : String}
    (h : joinsBefore first second = true)
    (hother : joinsBefore second third = true) : joinsBefore first third = true := by
  rw [joinsBefore_iff] at *
  rcases h with hlonger | ⟨hsame, hle⟩
  · left
    omega
  · rcases hother with hlonger' | ⟨hsame', hle'⟩
    · left
      omega
    · exact .inr ⟨hsame.trans hsame', String.le_trans hle hle'⟩

private theorem joinsBefore_total (first second : String) :
    joinsBefore first second = true ∨ joinsBefore second first = true := by
  rw [joinsBefore_iff, joinsBefore_iff]
  rcases Nat.lt_trichotomy first.length second.length with hlt | heq | hgt
  · exact .inr (.inl hlt)
  · rcases String.le_total first second with hle | hle
    · exact .inl (.inr ⟨heq, hle⟩)
    · exact .inr (.inr ⟨heq.symm, hle⟩)
  · exact .inl (.inl hgt)

private theorem pairwise_joinOrder (words : List String) :
    (joinOrder words).Pairwise fun first second => second.length ≤ first.length := by
  have hsorted :
      (joinOrder words).Pairwise fun first second => joinsBefore first second = true := by
    apply List.pairwise_mergeSort
    · exact fun first second third => joinsBefore_trans
    · intro first second
      rw [Bool.or_eq_true]
      exact joinsBefore_total first second
  refine hsorted.imp fun h => ?_
  rw [joinsBefore_iff] at h
  omega

inductive LongestAt (text : List Char) (words : List String) (start : Nat) : Option Cursor → Prop
  | nowhere (hnone : ∀ stop, ¬ Occurs text words start stop) : LongestAt text words start none
  | reaches {stop : Nat} (hstop : IsGreatest {stop | Occurs text words start stop} stop) :
      LongestAt text words start (some (.atOffset text stop))

/-- In the order in which words are joined, the first that occurs is the longest. -/
theorem longestAt_find? (text : List Char) (words : List String) (start : Nat) :
    LongestAt text words start (((joinOrder words).find? (occursAt text start)).map
      fun word => .atOffset text (start + word.length)) := by
  cases hfound : (joinOrder words).find? (occursAt text start) with
  | none =>
      refine .nowhere ?_
      rintro stop ⟨word, hword, hoccurs, -⟩
      exact List.find?_eq_none.mp hfound word (mem_joinOrder.mpr hword) hoccurs
  | some word =>
      -- what stands before the word in the order does not occur, what stands behind is no longer
      obtain ⟨hoccurs, longer, shorter, horder, hlonger⟩ := List.find?_eq_some_iff_append.mp hfound
      have hword : word ∈ words := mem_joinOrder.mp (List.mem_of_find?_eq_some hfound)
      refine .reaches ⟨⟨word, hword, hoccurs, rfl⟩, ?_⟩
      rintro stop ⟨other, hother, hoccursOther, rfl⟩
      have hsorted := pairwise_joinOrder words
      rw [← mem_joinOrder, horder] at hother
      rw [horder, List.pairwise_append, List.pairwise_cons] at hsorted
      apply Nat.add_le_add_left
      rcases List.mem_append.mp hother with hbefore | hbehind
      · have habsent := hlonger other hbefore
        rw [hoccursOther] at habsent
        contradiction
      · rcases List.mem_cons.mp hbehind with rfl | hbehind
        · exact Nat.le_refl _
        · exact hsorted.2.1.1 other hbehind

private theorem findSome?_eq_map_find? {Item Result : Type} {items : List Item}
    {isOne : Item → Bool} {result : Item → Result} {result? : Item → Option Result}
    (h : ∀ item ∈ items, result? item = if isOne item then some (result item) else none) :
    items.findSome? result? = (items.find? isOne).map result := by
  induction items with
  | nil => rfl
  | cons item items ih =>
      obtain ⟨hitem, hitems⟩ := List.forall_mem_cons.mp h
      rw [List.findSome?_cons, List.find?_cons, hitem, ih hitems]
      cases isOne item <;> rfl

def AcceptsBehind (text : List Char) (start : Nat) (accept : Cursor → Option Cursor) : Prop :=
  ∀ stop, start < stop → stop ≤ text.length →
    accept (.atOffset text stop) = some (.atOffset text stop)

private theorem run_joinPattern (hsome : words ≠ [])
    (hwords : ∀ word ∈ words, word ≠ "" ∧ ∀ char ∈ word.toList, isLiteral char = true)
    (hstart : start ≤ text.length) {accept : Cursor → Option Cursor}
    (haccept : AcceptsBehind text start accept) :
    (joinPattern words).run (.atOffset text start) accept =
      (words.find? (occursAt text start)).map
        fun word => .atOffset text (start + word.length) := by
  have hrun : (joinPattern words).run (.atOffset text start) accept =
      if (Cursor.atOffset text start).satisfies (.wordBoundary false) then
        (alternatives (words.map fun word => sequence [ofWord word])).run (.atOffset text start)
          fun following =>
            if following.satisfies (.wordBoundary false) then accept following else none
      else none := rfl
  rw [hrun, satisfies_wordBoundary hstart]
  by_cases hboundary : isWordBoundary text start = true
  · rw [if_pos hboundary, run_alternatives (by simpa using hsome), List.findSome?_map]
    apply findSome?_eq_map_find?
    intro word hword
    obtain ⟨hne, hliteral⟩ := hwords word hword
    have hbranch : (sequence [ofWord word]).run = (literalPattern word.toList).run := by
      rw [← ofWord_literal hliteral]
      rfl
    rw [Function.comp_apply, hbranch, run_literalPattern, occursAt, hboundary, Bool.true_and,
      String.length_toList]
    cases hstands : word.toList.isPrefixOf (text.drop start) with
    | false => rfl
    | true =>
        have hlength := length_le_of_isPrefixOf hstands
        have hpositive : 0 < word.length :=
          Nat.pos_of_ne_zero (mt String.length_eq_zero_iff.mp hne)
        rw [satisfies_wordBoundary (by omega), haccept _ (by omega) (by omega)]
        rfl
  · have hnone : words.find? (occursAt text start) = none := by
      simp [occursAt, hboundary]
    rw [if_neg hboundary, hnone]
    rfl

end Joins

/-! ## Searches -/

def FindsLongest (matcher : Pattern) (words : List String) : Prop :=
  ∀ {text : List Char} {start : Nat}, start ≤ text.length → ∀ {accept},
    AcceptsBehind text start accept →
      LongestAt text words start (matcher.run (.atOffset text start) accept)

theorem LexiconTable.findsLongest_matcher {category : Category} {words : List String}
    {table : LexiconTable} (h : LexiconTable.build category words = .ok table)
    (hliteral : ∀ word ∈ words, ∀ char ∈ word.toList, isLiteral char = true) :
    FindsLongest table.matcher words := by
  intro text start hstart accept haccept
  obtain ⟨hchecks, expression, hread, rfl⟩ := eq_of_build h
  have haccepted : ∀ word ∈ joinOrder words, word ≠ "" ∧ IsFragment word := fun word hword =>
    checkWord_eq_ok_iff.mp (forM_eq_ok_iff.mp hchecks word (mem_joinOrder.mp hword))
  by_cases hsome : joinOrder words = []
  · have hnever : joinWords words = "(?!)" := by rw [joinWords, hsome]
    have hlongest := longestAt_find? text words start
    rw [hsome] at hlongest
    rw [hnever] at hread
    rw [pattern_of_read_never hread]
    exact hlongest
  · rw [joinWords_eq_joinText hsome] at hread
    have hwords : ∀ word ∈ joinOrder words,
        word ≠ "" ∧ ∀ char ∈ word.toList, isLiteral char = true := fun word hword =>
      ⟨(haccepted word hword).1, hliteral word (mem_joinOrder.mp hword)⟩
    rw [pattern_of_read_joinText hsome (fun word hword => (haccepted word hword).2) hread,
      run_joinPattern hsome hwords hstart haccept]
    exact longestAt_find? text words start

inductive FirstMatch (text : List Char) (words : List String) (offset : Nat) :
    Option (Cursor × Cursor) → Prop
  | nowhere (hnone : ∀ start stop, offset ≤ start → ¬ Occurs text words start stop) :
      FirstMatch text words offset none
  | found {start stop : Nat}
      (hstart : IsLeast {start | offset ≤ start ∧ ∃ stop, Occurs text words start stop} start)
      (hstop : IsGreatest {stop | Occurs text words start stop} stop) :
      FirstMatch text words offset (some (.atOffset text start, .atOffset text stop))

section Searches

variable {text : List Char} {words : List String} {matcher : Pattern} {offset : Nat}

theorem FirstMatch.of_add_one {found? : Option (Cursor × Cursor)}
    (h : FirstMatch text words (offset + 1) found?)
    (hhere : ∀ stop, ¬ Occurs text words offset stop) : FirstMatch text words offset found? := by
  have hlater : ∀ start stop, Occurs text words start stop → offset ≤ start →
      offset + 1 ≤ start := by
    intro start stop hoccurs hle
    refine Nat.lt_of_le_of_ne hle ?_
    rintro rfl
    exact hhere stop hoccurs
  cases h with
  | nowhere hnone =>
      refine .nowhere fun start stop hle hoccurs => ?_
      exact hnone start stop (hlater start stop hoccurs hle) hoccurs
  | found hstart hstop =>
      refine .found ⟨⟨?_, hstart.1.2⟩, ?_⟩ hstop
      · exact Nat.le_of_succ_le hstart.1.1
      · rintro start ⟨hle, stop, hoccurs⟩
        exact hstart.2 ⟨hlater start stop hoccurs hle, stop, hoccurs⟩

private theorem findFrom?_atOffset (nonemptyHere : Bool) :
    matcher.findFrom? nonemptyHere (.atOffset text offset) =
      match matcher.run (.atOffset text offset) fun following =>
          if nonemptyHere && following.after.length == (Cursor.atOffset text offset).after.length
          then none else some following with
      | some following => some (.atOffset text offset, following)
      | none =>
        if offset < text.length then matcher.findFrom? false (.atOffset text (offset + 1))
        else none := by
  rw [findFrom?.eq_def]
  dsimp only
  generalize matcher.run (.atOffset text offset) _ = following?
  cases following? with
  | some following => rfl
  | none =>
      by_cases hlength : offset < text.length
      · rw [if_pos hlength, Cursor.atOffset_of_lt hlength, Cursor.atOffset_add_one hlength]
      · rw [if_neg hlength, Cursor.atOffset, List.drop_eq_nil_of_le (by omega)]

private theorem firstMatch_findFrom? (hfinds : FindsLongest matcher words)
    (hwords : ∀ word ∈ words, word ≠ "") (hoffset : offset ≤ text.length) (nonemptyHere : Bool) :
    FirstMatch text words offset (matcher.findFrom? nonemptyHere (.atOffset text offset)) := by
  induction hleft : text.length - offset using Nat.strong_induction_on
    generalizing offset nonemptyHere with
  | _ left ih =>
      have haccept : AcceptsBehind text offset fun following =>
          if nonemptyHere && following.after.length == (Cursor.atOffset text offset).after.length
          then none else some following := by
        intro stop hstart hstop
        have hshorter : text.length - stop ≠ text.length - offset := by omega
        simp [hshorter]
      -- either a word occurs here, or the search goes on one place further
      have hhere := hfinds hoffset haccept
      rw [findFrom?_atOffset]
      generalize matcher.run (.atOffset text offset) _ = found? at hhere
      cases hhere with
      | reaches hstop => exact .found ⟨⟨Nat.le_refl _, _, hstop.1⟩, fun start h => h.1⟩ hstop
      | nowhere hnone =>
          dsimp only
          by_cases hlength : offset < text.length
          · rw [if_pos hlength]
            exact (ih _ (by omega) hlength false rfl).of_add_one hnone
          · rw [if_neg hlength]
            refine .nowhere fun start stop hstart hoccurs => ?_
            have hbetween := hoccurs.lt hwords
            omega

private theorem leftmostLongest_findAllFrom (hfinds : FindsLongest matcher words)
    (hwords : ∀ word ∈ words, word ≠ "") {count : Nat} (hoffset : offset ≤ text.length)
    (hcount : text.length - offset < count) (nonemptyHere : Bool) :
    LeftmostLongest text words offset
      (matcher.findAllFrom count nonemptyHere (.atOffset text offset)) := by
  -- every match takes up a character, so the count does not run out before the text
  induction count generalizing offset nonemptyHere with
  | zero => contradiction
  | succ count ih =>
      have hfirst := firstMatch_findFrom? hfinds hwords hoffset nonemptyHere
      rw [findAllFrom]
      generalize matcher.findFrom? nonemptyHere (.atOffset text offset) = found? at hfirst
      cases hfirst with
      | nowhere hnone => exact .finished hnone
      | @found start stop hstart hstop =>
          have hbetween := hstop.1.lt hwords
          have hbehind : offset ≤ start := hstart.1.1
          dsimp only
          rw [Cursor.offset_atOffset (by omega), Cursor.offset_atOffset hbetween.2]
          exact .found hstart hstop (ih hbetween.2 (by omega) _)

theorem LeftmostLongest.offset_le {found : List (Nat × Nat)}
    (h : LeftmostLongest text words offset found) (hwords : ∀ word ∈ words, word ≠ "") :
    ∀ between ∈ found, offset ≤ between.1 := by
  induction h with
  | finished => exact List.forall_mem_nil _
  | found hstart hstop _ ih =>
      have hbetween := hstop.1.lt hwords
      have hbehind := hstart.1.1
      refine List.forall_mem_cons.mpr ⟨hbehind, fun between hmem => ?_⟩
      have hlater := ih between hmem
      omega

theorem LeftmostLongest.pairwise {found : List (Nat × Nat)}
    (h : LeftmostLongest text words offset found) (hwords : ∀ word ∈ words, word ≠ "") :
    found.Pairwise fun earlier later => earlier.2 ≤ later.1 := by
  induction h with
  | finished => exact .nil
  | found _ _ hothers ih => exact .cons (hothers.offset_le hwords) ih

end Searches

/-! ## Runs of word characters -/

section Runs

variable {text : List Char} {words : List String} {start stop offset : Nat}

theorem isWordBefore_of_pos (h : 0 < offset) :
    isWordBefore text offset = isWordAt text (offset - 1) := by
  cases offset with
  | zero => contradiction
  | succ offset => rfl

private theorem isWordAt_of_isPrefixOf {word : String}
    (hword : ∀ char ∈ word.toList, Unicode.isWord char = true)
    (hstands : word.toList.isPrefixOf (text.drop start) = true) (hle : start ≤ offset)
    (hlt : offset < start + word.length) : isWordAt text offset = true := by
  obtain ⟨others, hothers⟩ := List.isPrefixOf_iff_prefix.mp hstands
  have hlength : offset - start < word.toList.length := by
    rw [String.length_toList]
    omega
  have hchar : text[offset]? = some word.toList[offset - start] := by
    rw [← List.getElem?_eq_getElem hlength, ← List.getElem?_append_left hlength, hothers,
      List.getElem?_drop, Nat.add_sub_cancel' hle]
  rw [isWordAt, hchar]
  exact hword _ (List.getElem_mem hlength)

theorem IsWordRun.stop_le (h : IsWordRun text start stop) : stop ≤ text.length := by
  have hnonempty := h.nonempty
  have hlast := lt_length_of_isWordAt (h.inside (stop - 1) (by omega) (by omega))
  omega

theorem IsWordRun.eq_or_le (h : IsWordRun text start stop) {start' stop' : Nat}
    (hother : IsWordRun text start' stop') (hle : start ≤ start') :
    (start = start' ∧ stop = stop') ∨ stop ≤ start' := by
  have hnonempty := h.nonempty
  have hnonempty' := hother.nonempty
  by_cases hoverlap : stop ≤ start'
  · exact .inr hoverlap
  · left
    have hstart : start = start' := by
      by_contra hne
      have hbefore := hother.before
      rw [isWordBefore_of_pos (by omega), h.inside _ (by omega) (by omega)] at hbefore
      contradiction
    refine ⟨hstart, ?_⟩
    rcases Nat.lt_trichotomy stop stop' with hlt | heq | hgt
    · have hbehind := h.behind
      rw [hother.inside stop (by omega) hlt] at hbehind
      contradiction
    · exact heq
    · have hbehind := hother.behind
      rw [h.inside stop' (by omega) hgt] at hbehind
      contradiction

private theorem isWord_of_isIdentifierPart {char : Char} (h : isIdentifierPart char = true) :
    Unicode.isWord char = true := by
  simp only [isIdentifierPart, isIdentifierStart, Bool.or_eq_true, decide_eq_true_eq] at h
  rcases h with (rfl | hletter) | hdigit
  · rfl
  · have hascii : char.toNat < 128 := by
      unfold Char.isAlpha Char.isUpper Char.isLower at hletter
      simp [UInt32.le_iff_toNat_le] at hletter
      omega
    simp [Unicode.isWord, Unicode.isLetter, hascii, hletter]
  · have hascii : char.toNat < 128 := by
      simp [Char.isDigit, UInt32.le_iff_toNat_le] at hdigit
      omega
    simp [Unicode.isWord, Unicode.isNumeral, hascii, hdigit]

/-- Words of word characters occur exactly where they are a run of such characters. -/
theorem occurs_iff_isWordRun
    (hwords : ∀ word ∈ words, word ≠ "" ∧ ∀ char ∈ word.toList, Unicode.isWord char = true) :
    Occurs text words start stop ↔
      IsWordRun text start stop ∧
        ∃ word ∈ words, word.toList = (text.drop start).take (stop - start) := by
  constructor
  · rintro ⟨word, hword, hoccurs, rfl⟩
    obtain ⟨hne, hchars⟩ := hwords word hword
    have hpositive : 0 < word.length :=
      Nat.pos_of_ne_zero (mt String.length_eq_zero_iff.mp hne)
    simp only [occursAt, isWordBoundary, Bool.and_eq_true] at hoccurs
    obtain ⟨⟨hstart, hstands⟩, hstop⟩ := hoccurs
    have hinside : ∀ offset, start ≤ offset → offset < start + word.length →
        isWordAt text offset = true := fun offset hle hlt =>
      isWordAt_of_isPrefixOf hchars hstands hle hlt
    rw [hinside start (by omega) (by omega)] at hstart
    rw [isWordBefore_of_pos (by omega), hinside _ (by omega) (by omega)] at hstop
    refine ⟨⟨by omega, hinside, by simpa using hstart, by simpa using hstop⟩, word, hword, ?_⟩
    rw [Nat.add_sub_cancel_left, ← String.length_toList]
    exact List.prefix_iff_eq_take.mp (List.isPrefixOf_iff_prefix.mp hstands)
  · rintro ⟨hrun, word, hword, htext⟩
    have hnonempty := hrun.nonempty
    have hstop := hrun.stop_le
    have hlength : start + word.length = stop := by
      rw [← String.length_toList, htext, List.length_take, List.length_drop]
      omega
    have hstands : word.toList.isPrefixOf (text.drop start) = true := by
      rw [List.isPrefixOf_iff_prefix, htext]
      exact List.take_prefix _ _
    refine ⟨word, hword, ?_, hlength.symm⟩
    rw [occursAt, isWordBoundary, isWordBoundary, hlength, hstands, hrun.before, hrun.behind,
      hrun.inside start (by omega) hnonempty, isWordBefore_of_pos (by omega),
      hrun.inside _ (by omega) (by omega)]
    rfl

theorem LeftmostLongest.mem_iff {found : List (Nat × Nat)}
    (h : LeftmostLongest text words offset found)
    (hwords : ∀ word ∈ words, word ≠ "" ∧ ∀ char ∈ word.toList, Unicode.isWord char = true) :
    (start, stop) ∈ found ↔ offset ≤ start ∧ Occurs text words start stop := by
  induction h with
  | finished hnone =>
      refine iff_of_false (List.not_mem_nil) ?_
      rintro ⟨hle, hoccurs⟩
      exact hnone start stop hle hoccurs
  | @found offset first last others hfirst hlast _ ih =>
      have hrun := ((occurs_iff_isWordRun hwords).mp hlast.1).1
      have hnonempty := hrun.nonempty
      rw [List.mem_cons, ih]
      constructor
      · rintro (heq | ⟨hle, hoccurs⟩)
        · cases heq
          exact ⟨hfirst.1.1, hlast.1⟩
        · have hbehind : offset ≤ first := hfirst.1.1
          exact ⟨by omega, hoccurs⟩
      · rintro ⟨hle, hoccurs⟩
        have hother := ((occurs_iff_isWordRun hwords).mp hoccurs).1
        rcases hrun.eq_or_le hother (hfirst.2 ⟨hle, stop, hoccurs⟩) with ⟨rfl, rfl⟩ | hlater
        · exact .inl rfl
        · exact .inr ⟨hlater, hoccurs⟩

end Runs

/-! ## Matchers -/

/-- What is found of literal words in a text.  Identifiers are words of word characters. -/
structure FindsWords (text : List Char) (words : List String) (found : List (Nat × Nat)) :
    Prop where
  leftmostLongest : LeftmostLongest text words 0 found
  ordered : found.Pairwise fun earlier later => earlier.2 ≤ later.1
  runs : (∀ word ∈ words, ∀ char ∈ word.toList, Unicode.isWord char = true) →
    ∀ start stop, (start, stop) ∈ found ↔
      IsWordRun text start stop ∧
        ∃ word ∈ words, word.toList = (text.drop start).take (stop - start)

theorem LexiconTable.findsWords {category : Category} {words : List String}
    {table : LexiconTable} (h : LexiconTable.build category words = .ok table)
    (hliteral : ∀ word ∈ words, ∀ char ∈ word.toList, isLiteral char = true) (text : List Char) :
    FindsWords text words (table.matcher.findAll text) := by
  have haccepted := forM_eq_ok_iff.mp (eq_of_build h).1
  have hwords : ∀ word ∈ words, word ≠ "" := fun word hword =>
    (checkWord_eq_ok_iff.mp (haccepted word hword)).1
  have hfound : LeftmostLongest text words 0 (table.matcher.findAll text) := by
    rw [findAll, ← Cursor.atOffset_zero]
    exact leftmostLongest_findAllFrom (findsLongest_matcher h hliteral) hwords (Nat.zero_le _)
      (by omega) false
  refine ⟨hfound, hfound.pairwise hwords, fun hchars start stop => ?_⟩
  have hruns : ∀ word ∈ words, word ≠ "" ∧ ∀ char ∈ word.toList, Unicode.isWord char = true :=
    fun word hword => ⟨hwords word hword, hchars word hword⟩
  rw [hfound.mem_iff hruns, occurs_iff_isWordRun hruns]
  exact and_iff_right (Nat.zero_le _)

namespace Lexicon

variable {base extensions : WordTable} {lexicon : Lexicon} {category : Category}

/-- A category of literal words has a matcher, and it finds the words of the category. -/
theorem exists_table_findsWords (h : build base extensions = .ok lexicon)
    (hcategory : category ∈ lexicon.categories)
    (hliteral : ∀ word ∈ lexicon.words category, ∀ char ∈ word.toList, isLiteral char = true) :
    ∃ table, lexicon.table category = .ok table ∧
      ∀ text, FindsWords text (lexicon.words category) (table.matcher.findAll text) := by
  obtain ⟨listed, hlisted, rfl⟩ := List.mem_map.mp hcategory
  cases htable : lexicon.table? listed.category with
  | none =>
      have habsent := List.find?_eq_none.mp htable listed hlisted
      simp at habsent
  | some table =>
      have hwords : lexicon.words listed.category = table.words := by
        simp [words, htable]
      obtain ⟨entry, hentry⟩ := exists_build_of_table? h htable
      obtain ⟨-, expression, -, rfl⟩ := LexiconTable.eq_of_build hentry
      refine ⟨_, by rw [Lexicon.table, htable], fun text => ?_⟩
      rw [hwords] at hliteral ⊢
      exact LexiconTable.findsWords hentry hliteral text

theorem exists_table_findsWords_qualifiers :
    ∃ lexicon table, build [(.qualifier, ["in", "inout"])] [] = .ok lexicon ∧
      lexicon.table .qualifier = .ok table ∧
      (4, 9) ∈ table.matcher.findAll "int inout".toList ∧
      (0, 2) ∉ table.matcher.findAll "int inout".toList := by
  have hnames : ∀ word ∈ ["in", "inout"], IsName word := by
    repeat refine List.forall_mem_cons.mpr ⟨isName_ofList rfl, ?_⟩
    exact List.forall_mem_nil _
  obtain ⟨lexicon, hlexicon⟩ :
      ∃ lexicon, build [(.qualifier, ["in", "inout"])] [] = .ok lexicon := by
    rw [build_of_forall_eq_nil _ (List.forall_mem_nil _)]
    apply exists_ofWords_eq_ok
    simpa using fun word hword => (hnames word hword).isPlainWord.isJoinable
  have hdistinct : (([(.qualifier, ["in", "inout"])] : WordTable).map Prod.fst).Nodup := by
    decide
  obtain ⟨hcategories, hwords, -⟩ := lists_of_build hdistinct hlexicon
  have hqualifiers : lexicon.words .qualifier = ["in", "inout"] := hwords .qualifier
  obtain ⟨table, htable, hfinds⟩ : ∃ table, lexicon.table .qualifier = .ok table ∧
      ∀ text, FindsWords text (lexicon.words .qualifier) (table.matcher.findAll text) := by
    refine exists_table_findsWords hlexicon (by simp [hcategories]) ?_
    rw [hqualifiers]
    exact fun word hword char hchar =>
      isLiteral_of_isIdentifierPart ((hnames word hword).2 char hchar)
  have hruns := (hfinds "int inout".toList).runs
  rw [hqualifiers] at hruns
  have hruns := hruns fun word hword char hchar =>
    isWord_of_isIdentifierPart ((hnames word hword).2 char hchar)
  refine ⟨lexicon, table, hlexicon, htable, (hruns 4 9).mpr ⟨⟨by decide, ?_, rfl, rfl⟩, ?_⟩, ?_⟩
  · intro offset hle hlt
    interval_cases offset <;> rfl
  · exact ⟨"inout", by simp, rfl⟩
  · intro hmem
    have hbehind := ((hruns 0 2).mp hmem).1.behind
    contradiction

end Lexicon

end ShaderTokens
