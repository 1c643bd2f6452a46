import Mathlib.Data.Nat.Init
import ShaderTokens.Pattern.Match

/-!
# Where matches may end

A pattern at a place in a text has a list of ends, in the order in which they are tried, and a
continuation takes the first that it accepts.  So the list does not depend on what follows the
pattern, however it backtracks.
-/

namespace ShaderTokens.Pattern

/-! ## Lists of ends -/

/-- A search among the places of a text that tries some of them in a fixed order. -/
def EndsIn (text : List Char) (search : (Cursor → Option Cursor) → Option Cursor) : Prop :=
  ∃ ends : List Cursor, (∀ stop ∈ ends, stop.text = text) ∧
    ∀ accept, search accept = ends.findSome? accept

def Enumerates (runner : Runner) : Prop :=
  ∀ cursor, EndsIn cursor.text (runner cursor)

namespace EndsIn

variable {text : List Char} {first second : (Cursor → Option Cursor) → Option Cursor}

theorem of_eq (h : EndsIn text first) (heq : ∀ accept, second accept = first accept) :
    EndsIn text second := by
  obtain ⟨ends, hends, hsearch⟩ := h
  exact ⟨ends, hends, fun accept => (heq accept).trans (hsearch accept)⟩

theorem nowhere (text : List Char) : EndsIn text fun _ => none :=
  ⟨[], by simp, fun _ => rfl⟩

theorem here {cursor : Cursor} (h : cursor.text = text) :
    EndsIn text fun accept => accept cursor :=
  ⟨[cursor], by simpa using h, fun accept => by simp⟩

theorem hereIf {cursor : Cursor} (h : cursor.text = text) (holds : Bool) :
    EndsIn text fun accept => if holds then accept cursor else none := by
  cases holds with
  | false => exact (nowhere text).of_eq fun accept => if_neg Bool.false_ne_true
  | true => exact (here h).of_eq fun accept => if_pos rfl

theorem orElse (hfirst : EndsIn text first) (hsecond : EndsIn text second) :
    EndsIn text fun accept => first accept <|> second accept := by
  obtain ⟨ends, hends, hsearch⟩ := hfirst
  obtain ⟨others, hothers, hsearch'⟩ := hsecond
  refine ⟨ends ++ others, ?_, fun accept => ?_⟩
  · intro stop hstop
    rcases List.mem_append.mp hstop with h | h
    · exact hends stop h
    · exact hothers stop h
  · simp [List.findSome?_append, hsearch, hsearch']

theorem bind {next : Runner} (hfirst : EndsIn text first)
    (hnext : ∀ stop : Cursor, stop.text = text → EndsIn text (next stop)) :
    EndsIn text fun accept => first fun stop => next stop accept := by
  obtain ⟨ends, hends, hsearch⟩ := hfirst
  simp only [hsearch]
  clear hsearch
  induction ends with
  | nil => exact nowhere text
  | cons stop ends ih =>
      have hstop := hnext stop (hends stop (by simp))
      have hothers := ih fun other hother => hends other (by simp [hother])
      refine (hstop.orElse hothers).of_eq fun accept => ?_
      cases h : next stop accept <;> simp [h]

theorem search_congr (h : EndsIn text first) {accept other : Cursor → Option Cursor}
    (hsame : ∀ stop : Cursor, stop.text = text → accept stop = other stop) :
    first accept = first other := by
  obtain ⟨ends, hends, hsearch⟩ := h
  rw [hsearch, hsearch]
  clear hsearch
  induction ends with
  | nil => rfl
  | cons stop ends ih =>
      have hothers := ih fun other hother => hends other (by simp [hother])
      rw [List.findSome?_cons, List.findSome?_cons, hsame stop (hends stop (by simp)), hothers]

theorem text_of_search (h : EndsIn text first) {stop : Cursor} (hstop : first some = some stop) :
    stop.text = text := by
  obtain ⟨ends, hends, hsearch⟩ := h
  rw [hsearch] at hstop
  obtain ⟨stop', hmem, hfound⟩ := List.exists_of_findSome?_eq_some hstop
  cases hfound
  exact hends stop hmem

theorem ofOption {found? : Option Cursor} (h : ∀ stop, found? = some stop → stop.text = text) :
    EndsIn text found?.bind := by
  cases found? with
  | none => exact nowhere text
  | some stop => exact here (h stop rfl)

private theorem search_eq_none (h : EndsIn text first) : first (fun _ => none) = none := by
  obtain ⟨ends, -, hsearch⟩ := h
  simp [hsearch]

end EndsIn

/-! ## Repetition -/

section Repetition

variable {body : Runner} (hbody : Enumerates body)

include hbody

theorem enumerates_runTimes (count : Nat) : Enumerates (runTimes body count) := by
  intro cursor
  induction count generalizing cursor with
  | zero => exact .here rfl
  | succ count ih => exact (hbody cursor).bind fun stop hstop => hstop ▸ ih stop

private theorem enumerates_runGreedy (limit : Option Nat) : Enumerates (runGreedy body limit) := by
  intro cursor
  induction hlength : cursor.after.length using Nat.strong_induction_on
    generalizing limit cursor with
  | _ length ih =>
      by_cases hlimit : limit = some 0
      · have hhere : EndsIn cursor.text fun accept => accept cursor := .here rfl
        refine hhere.of_eq fun accept => ?_
        rw [runGreedy, if_pos hlimit]
      · have hround : ∀ following : Cursor, following.text = cursor.text →
            EndsIn cursor.text fun accept =>
              if following.after.length < cursor.after.length then
                runGreedy body (limit.map (· - 1)) following accept
              else accept following := by
          intro following hfollowing
          split
          next hshorter => exact hfollowing ▸ ih _ (hlength ▸ hshorter) _ following rfl
          next => exact .here hfollowing
        refine (((hbody cursor).bind hround).orElse (.here rfl)).of_eq fun accept => ?_
        rw [runGreedy, if_neg hlimit]

private theorem enumerates_runLazy (limit : Option Nat) : Enumerates (runLazy body limit) := by
  intro cursor
  induction hlength : cursor.after.length using Nat.strong_induction_on
    generalizing limit cursor with
  | _ length ih =>
      by_cases hlimit : limit = some 0
      · have hhere : EndsIn cursor.text fun accept => accept cursor := .here rfl
        refine hhere.of_eq fun accept => ?_
        rw [runLazy, if_pos hlimit]
        cases accept cursor <;> rfl
      · have hround : ∀ following : Cursor, following.text = cursor.text →
            EndsIn cursor.text fun accept =>
              if following.after.length < cursor.after.length then
                runLazy body (limit.map (· - 1)) following accept
              else none := by
          intro following hfollowing
          split
          next hshorter => exact hfollowing ▸ ih _ (hlength ▸ hshorter) _ following rfl
          next => exact .nowhere _
        refine ((EndsIn.here rfl).orElse ((hbody cursor).bind hround)).of_eq fun accept => ?_
        rw [runLazy, if_neg hlimit]

@[simp] private theorem text_lastRound (limit : Option Nat) (cursor : Cursor) :
    (lastRound body limit cursor).text = cursor.text := by
  induction hlength : cursor.after.length using Nat.strong_induction_on
    generalizing limit cursor with
  | _ length ih =>
      rw [lastRound]
      split
      next => rfl
      next =>
        split
        next => rfl
        next following hround =>
          have hfollowing := (hbody cursor).text_of_search hround
          split
          next hshorter => exact (ih _ (hlength ▸ hshorter) _ following rfl).trans hfollowing
          next => exact hfollowing

private theorem text_firstRounds (count : Nat) {cursor stop : Cursor}
    (h : firstRounds body count cursor = some stop) : stop.text = cursor.text := by
  induction count generalizing cursor with
  | zero =>
      cases h
      rfl
  | succ count ih =>
      obtain ⟨following, hround, hrest⟩ := Option.bind_eq_some_iff.mp h
      exact (ih hrest).trans ((hbody cursor).text_of_search hround)

private theorem enumerates_runRepeated (least : Nat) (greatest : Option Nat) (greed : Greed) :
    Enumerates (runRepeated body least greatest greed) := by
  intro cursor
  cases greed with
  | greedy =>
      exact (enumerates_runTimes hbody least cursor).bind fun stop hstop =>
        hstop ▸ enumerates_runGreedy hbody _ stop
  | lazy =>
      exact (enumerates_runTimes hbody least cursor).bind fun stop hstop =>
        hstop ▸ enumerates_runLazy hbody _ stop
  | possessive =>
      -- the rounds are settled before the continuation is asked, so there is at most one end
      let settled := (firstRounds body least cursor).map
        (lastRound body (greatest.map (· - least)))
      have hsettled : ∀ stop, settled = some stop → stop.text = cursor.text := by
        intro stop hstop
        obtain ⟨following, hrounds, rfl⟩ := Option.map_eq_some_iff.mp hstop
        exact (text_lastRound hbody _ following).trans (text_firstRounds hbody least hrounds)
      refine (EndsIn.ofOption hsettled).of_eq fun accept => ?_
      rw [Option.bind_map]
      rfl

end Repetition

/-! ## Patterns -/

private theorem enumerates_run (pattern : Pattern) : Enumerates pattern.run := by
  intro cursor
  induction pattern generalizing cursor with
  | empty => exact .here rfl
  | oneOf set =>
      cases hnext : cursor.next? with
      | none => exact (EndsIn.nowhere cursor.text).of_eq fun accept => by simp [run, hnext]
      | some found =>
          obtain ⟨char, following⟩ := found
          have hfollowing : following.text = cursor.text := Cursor.text_next? hnext
          exact (EndsIn.hereIf hfollowing (set.contains char)).of_eq fun accept => by
            simp [run, hnext]
  | anchor condition => exact .hereIf rfl (cursor.satisfies condition)
  | both first second ihfirst ihsecond =>
      exact (ihfirst cursor).bind fun stop hstop => hstop ▸ ihsecond stop
  | either first second ihfirst ihsecond => exact (ihfirst cursor).orElse (ihsecond cursor)
  | repeated body least greatest greed ih => exact enumerates_runRepeated ih _ _ _ cursor
  | atomic body ih => exact .ofOption fun stop hstop => (ih cursor).text_of_search hstop
  | look direction negated body => exact .hereIf rfl _
  | capture body ih => exact ih cursor
  | reference width => exact .nowhere _
  | conditional whenSet whenUnset _ ih => exact ih cursor

/-! ## Matches of the whole text -/

@[simp] theorem matchesWhole_sequence_singleton (pattern : Pattern) (text : List Char) :
    (sequence [pattern]).matchesWhole text = pattern.matchesWhole text :=
  rfl

theorem run_alternatives {branches : List Pattern} (hsome : branches ≠ []) (cursor : Cursor)
    (accept : Cursor → Option Cursor) :
    (alternatives branches).run cursor accept =
      branches.findSome? fun branch => branch.run cursor accept := by
  induction branches with
  | nil => contradiction
  | cons first others ih =>
      cases others with
      | nil => simp [alternatives]
      | cons second others =>
          rw [alternatives, run, ih (by simp), List.findSome?_cons (a := first)]
          cases first.run cursor accept <;> rfl

theorem matchesWhole_alternatives {branches : List Pattern} (hsome : branches ≠ [])
    (text : List Char) :
    (alternatives branches).matchesWhole text = branches.any (·.matchesWhole text) := by
  rw [matchesWhole, run_alternatives hsome, List.isSome_findSome?]
  rfl

/-- Between word boundaries a pattern matches the same whole texts, as far as they begin and end
with word characters: however it backtracks, only its ends at the end of the text count. -/
theorem matchesWhole_betweenBoundaries (body : Pattern) (text : List Char) :
    (sequence [anchor (.wordBoundary false), body, anchor (.wordBoundary false)]).matchesWhole
        text =
      (text.head?.any Unicode.isWord && text.getLast?.any Unicode.isWord &&
        body.matchesWhole text) := by
  have hclass : CharClass.word.contains false = Unicode.isWord := rfl
  have hstart : (Cursor.ofText text).satisfies (.wordBoundary false) =
      text.head?.any Unicode.isWord := by
    simp [Cursor.satisfies, Cursor.atWordBoundary, Cursor.ofText, hclass]
  have hstop : ∀ stop : Cursor, stop.text = text → stop.after = [] →
      stop.satisfies (.wordBoundary false) = text.getLast?.any Unicode.isWord := by
    intro stop htext hafter
    have hbefore : stop.before.head? = text.getLast? := by
      rw [← htext, Cursor.text, hafter, List.append_nil, List.getLast?_reverse]
    simp [Cursor.satisfies, Cursor.atWordBoundary, hafter, hclass, hbefore]
  have hends := enumerates_run body (.ofText text)
  rw [Cursor.text_ofText] at hends
  simp only [matchesWhole, sequence, List.foldr_cons, List.foldr_nil, run, hstart]
  by_cases hfirst : text.head?.any Unicode.isWord
  · by_cases hlast : text.getLast?.any Unicode.isWord
    · rw [if_pos hfirst, hfirst, hlast, Bool.true_and, Bool.true_and]
      congr 1
      refine hends.search_congr fun stop htext => ?_
      by_cases hafter : stop.after = []
      · simp [hstop stop htext hafter, hlast]
      · simp [hafter]
    · have hrefused : ∀ stop : Cursor, stop.text = text →
          (if stop.satisfies (.wordBoundary false) then
            if stop.after.isEmpty then some stop else none
          else none) = none := by
        intro stop htext
        by_cases hafter : stop.after = []
        · simp [hstop stop htext hafter, hlast]
        · simp [hafter]
      rw [if_pos hfirst, hends.search_congr hrefused, hends.search_eq_none]
      simp [hlast]
  · simp [hfirst]

end ShaderTokens.Pattern
