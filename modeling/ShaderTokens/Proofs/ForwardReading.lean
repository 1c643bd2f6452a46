import ShaderTokens.Proofs.FragmentEnd
import ShaderTokens.Token

/-!
# Reading forward

A pattern can be read if its steps come to the end of the text and the checks of the whole pattern
pass.  Literal characters, bars, word boundaries and groups without flags or numbers can be read
wherever they stand.
-/

namespace ShaderTokens.Pattern

open PatternSymbol Reader

/-! ## Whole patterns -/

structure Reads (text : String) (finished : Progress) : Prop where
  start : ofText text.toList ≠ [loneBackslash]
  run : (untilDone readStep {}).run (ofText text.toList) = .ok (finished, [])
  charsets : ¬(finished.wholeFlags.contains .ascii && finished.wholeFlags.contains .unicode) = true
  conditions : ∀ condition ∈ finished.conditions, condition.1 < finished.groups.opened
  runnable : finished.frame.pattern.defect? (finished.wholeFlags.contains .template) = none

theorem Reads.run_readWhole {text : String} {finished : Progress} (h : Reads text finished) :
    readWhole.run (ofText text.toList) = .ok (finished, []) := by
  have hnone : finished.conditions.find?
      (fun condition => finished.groups.opened ≤ condition.1) = none := by
    simpa using h.conditions
  rw [readWhole, run_bind_of_eq_ok h.run, if_neg h.charsets, hnone]
  rfl

private theorem of_run_readWhole_eq_ok {symbols rest : List PatternSymbol} {finished : Progress}
    (h : readWhole.run symbols = .ok (finished, rest)) :
    (untilDone readStep {}).run symbols = .ok (finished, []) ∧
      ¬(finished.wholeFlags.contains .ascii && finished.wholeFlags.contains .unicode) = true ∧
      ∀ condition ∈ finished.conditions, condition.1 < finished.groups.opened := by
  obtain ⟨progress, between, hloop, hchecks⟩ := run_bind_eq_ok h
  dsimp only at hchecks
  split at hchecks
  next =>
    obtain ⟨_, _, hthrow, -⟩ := run_bind_eq_ok hchecks
    cases hthrow
  next hcharsets =>
    obtain ⟨unread, _, hget, hrest⟩ := run_bind_eq_ok hchecks
    cases hget
    split at hrest
    next =>
      obtain ⟨_, _, hfail, -⟩ := run_bind_eq_ok hrest
      cases hfail
    next hempty =>
      split at hrest
      next => cases hrest
      next hnone =>
        cases hrest
        obtain rfl : rest = [] := by simpa using hempty
        exact ⟨hloop, hcharsets, by simpa using hnone⟩

theorem Reads.read_eq_ok {text : String} {finished : Progress} (h : Reads text finished) :
    readSymbols (ofText text.toList) = .ok finished ∧
      Pattern.read text = .ok ⟨finished.frame.pattern, finished.groups.captures⟩ := by
  have hsymbols : readSymbols (ofText text.toList) = .ok finished := by
    rw [readSymbols, if_neg h.start, h.run_readWhole]
    rfl
  refine ⟨hsymbols, ?_⟩
  simp only [Pattern.read, hsymbols, h.runnable]

theorem exists_reads_of_read_eq_ok {text : String} {expression : Expression}
    (h : Pattern.read text = .ok expression) :
    ∃ finished, Reads text finished ∧
      expression = ⟨finished.frame.pattern, finished.groups.captures⟩ := by
  unfold Pattern.read readSymbols at h
  by_cases hstart : ofText text.toList = [loneBackslash]
  · rw [if_pos hstart] at h
    cases h
  rw [if_neg hstart] at h
  cases hrun : readWhole.run (ofText text.toList) with
  | error fault =>
      rw [hrun] at h
      cases h
  | ok found =>
      obtain ⟨finished, rest⟩ := found
      obtain ⟨hloop, hcharsets, hconditions⟩ := of_run_readWhole_eq_ok hrun
      simp only [hrun, Except.map] at h
      cases hdefect : finished.frame.pattern.defect? (finished.wholeFlags.contains .template) with
      | some cause =>
          rw [hdefect] at h
          cases h
      | none =>
          rw [hdefect] at h
          cases h
          exact ⟨finished, ⟨hstart, hloop, hcharsets, hconditions, hdefect⟩, rfl⟩

theorem read_eq_error {text : String} {fault : Fault}
    (hstart : ofText text.toList ≠ [loneBackslash])
    (h : (untilDone readStep {}).run (ofText text.toList) = .error fault) :
    Pattern.read text = .error (fault.error text.toList) := by
  have hwhole : readWhole.run (ofText text.toList) = .error fault := by
    rw [readWhole, StateT.run_bind, h]
    rfl
  have hsymbols : readSymbols (ofText text.toList) = .error fault := by
    rw [readSymbols, if_neg hstart, hwhole]
    rfl
  simp only [Pattern.read, hsymbols]

/-! ## Single steps -/

section Steps

variable {progress : Progress} {rest : List PatternSymbol}

@[simp] theorem run_next?_of_ne {symbol : PatternSymbol} (hrest : rest ≠ [loneBackslash]) :
    Reader.next?.run (symbol :: rest) = .ok (some symbol, rest) := by
  rw [run_next?_cons, if_neg hrest]

private theorem run_next?_bind {symbol : PatternSymbol} {Result : Type}
    {following : Option PatternSymbol → Reader Result} (hrest : rest ≠ [loneBackslash]) :
    (Reader.next? >>= following).run (symbol :: rest) = (following (some symbol)).run rest :=
  run_bind_of_eq_ok (run_next?_of_ne hrest)

theorem run_readStep_plain {char : Char} (hclose : char ≠ ')') (hbar : char ≠ '|')
    {unread : List PatternSymbol} (hunread : unread ≠ [loneBackslash]) {following : Progress}
    (h : (readItem progress (plain char :: unread) char).run unread = .ok (following, rest)) :
    (readStep progress).run (plain char :: unread) = .ok (.inl following, rest) := by
  rw [run_readStep_of_ordinary (by simpa using hclose) (by simpa using hbar),
    run_next?_bind hunread]
  dsimp only
  rw [run_bind_of_eq_ok h]
  rfl

theorem run_readStep_nextBranch (henclosure : progress.frame.enclosure = .plain)
    (hrest : rest ≠ [loneBackslash]) :
    (readStep progress).run (plain '|' :: rest) =
      .ok (.inl (progress.setFrame progress.frame.nextBranch), rest) := by
  rw [run_readStep_bar, henclosure, if_neg (by simp), run_next?_bind hrest]
  rfl

theorem run_readStep_wordBoundary (hmode : progress.frame.mode = {})
    (hrest : rest ≠ [loneBackslash]) :
    (readStep progress).run (escaped 'b' :: rest) =
      .ok (.inl (progress.addItem (.anchor (.wordBoundary false)) .anchor), rest) := by
  have hescape : readEscape progress 'b' =
      pure (progress.addItem (.anchor (.wordBoundary false)) .anchor) := by
    simp [readEscape, anchorEscape?, hmode]
  rw [run_readStep_of_ordinary (by decide) (by decide), run_next?_bind hrest]
  dsimp only
  rw [hescape]
  rfl

private theorem run_readOpening_colon (here : List PatternSymbol) (groups : Groups)
    (limit : Option Nat) (hrest : rest ≠ [loneBackslash]) :
    (readOpening here groups limit).run (plain '?' :: plain ':' :: rest) =
      .ok ((.encloses .plain [] [], groups), rest) := by
  have haccept : (accept '?').run (plain '?' :: plain ':' :: rest) =
      .ok (true, plain ':' :: rest) := rfl
  rw [readOpening, run_bind_of_eq_ok haccept, if_pos rfl, readExtension,
    run_next?_bind hrest]
  rfl

theorem run_readStep_openPlain (hmode : progress.frame.mode = {}) (hrest : rest ≠ [loneBackslash]) :
    ∃ here, (readStep progress).run (plain '(' :: plain '?' :: plain ':' :: rest) =
      .ok (.inl { progress with
        frame := progress.frame.enclose progress.groups .plain here {}
        outer := progress.frame :: progress.outer }, rest) := by
  refine ⟨plain '(' :: plain '?' :: plain ':' :: rest, ?_⟩
  have hnext : Reader.next?.run (plain '(' :: plain '?' :: plain ':' :: rest) =
      .ok (some (plain '('), plain '?' :: plain ':' :: rest) := run_next?_of_ne (by simp)
  have hgroup : (openGroup progress (plain '(' :: plain '?' :: plain ':' :: rest)).run
      (plain '?' :: plain ':' :: rest) =
        .ok ({ progress with
          frame := progress.frame.enclose progress.groups .plain
            (plain '(' :: plain '?' :: plain ':' :: rest) {}
          outer := progress.frame :: progress.outer }, rest) := by
    rw [openGroup, run_bind_of_eq_ok (run_readOpening_colon _ _ _ hrest), hmode]
    rfl
  rw [run_readStep_open, run_bind_of_eq_ok hnext, run_bind_of_eq_ok hgroup]
  rfl

theorem run_readStep_close {parent : Frame} {outer : List Frame}
    (houter : progress.outer = parent :: outer) (hrest : rest ≠ [loneBackslash]) :
    (readStep progress).run (plain ')' :: rest) =
      .ok (.inl (closeGroup progress parent outer), rest) := by
  rw [run_readStep_closing houter, run_next?_bind hrest]
  rfl

end Steps

/-! ## Plain progress -/

section Defects

theorem defect?_sequence {parts : List Pattern} (h : ∀ part ∈ parts, part.defect? false = none) :
    (sequence parts).defect? false = none := by
  induction parts with
  | nil => rfl
  | cons part parts ih =>
      obtain ⟨hpart, hparts⟩ := List.forall_mem_cons.mp h
      simp only [sequence, List.foldr_cons, defect?, hpart]
      exact ih hparts

theorem defect?_alternatives {branches : List Pattern}
    (h : ∀ branch ∈ branches, branch.defect? false = none) :
    (alternatives branches).defect? false = none := by
  fun_induction alternatives branches with
  | case1 => rfl
  | case2 only => exact h only (by simp)
  | case3 first second others ih =>
      obtain ⟨hfirst, hothers⟩ := List.forall_mem_cons.mp h
      simp only [defect?, hfirst, ih hothers]
      rfl

end Defects

structure Frame.IsPlain (frame : Frame) : Prop where
  enclosure : frame.enclosure = .plain
  mode : frame.mode = {}
  branches : ∀ branch ∈ frame.branches, branch.defect? false = none
  items : ∀ item ∈ frame.items, item.pattern.defect? false = none

namespace Frame.IsPlain

variable {frame : Frame}

private theorem defect?_branch (h : frame.IsPlain) : frame.branch.defect? false = none := by
  refine defect?_sequence fun part hpart => ?_
  obtain ⟨item, hitem, rfl⟩ := List.mem_map.mp hpart
  exact h.items item (List.mem_reverse.mp hitem)

theorem defect?_pattern (h : frame.IsPlain) : frame.pattern.defect? false = none := by
  rw [Frame.pattern, h.enclosure]
  refine defect?_alternatives fun branch hbranch => ?_
  rcases List.mem_cons.mp (List.mem_reverse.mp hbranch) with rfl | hbranch
  · exact h.defect?_branch
  · exact h.branches branch hbranch

theorem addItem (h : frame.IsPlain) {pattern : Pattern} (hpattern : pattern.defect? false = none)
    (kind : ItemKind) : (frame.addItem pattern kind).IsPlain where
  enclosure := h.enclosure
  mode := h.mode
  branches := h.branches
  items := List.forall_mem_cons.mpr ⟨hpattern, h.items⟩

end Frame.IsPlain

structure Progress.IsPlain (progress : Progress) : Prop where
  frame : progress.frame.IsPlain
  groups : progress.groups = {}
  conditions : progress.conditions = []
  wholeFlags : progress.wholeFlags = []

theorem Progress.IsPlain.setFrame {progress : Progress} (h : progress.IsPlain) {frame : Frame}
    (hframe : frame.IsPlain) : (progress.setFrame frame).IsPlain :=
  { h with frame := hframe }

theorem isPlain_start : Progress.IsPlain {} where
  frame := ⟨rfl, rfl, by simp [Frame.outermost], by simp [Frame.outermost]⟩
  groups := rfl
  conditions := rfl
  wholeFlags := rfl

/-- The symbols up to `rest` can be read, and what is open behind them was open before them. -/
def ReadsOver (progress : Progress) (unread rest : List PatternSymbol) : Prop :=
  ∃ following : Progress, Reaches progress unread following rest ∧ following.IsPlain ∧
    following.outer = progress.outer

namespace ReadsOver

variable {progress : Progress} {unread rest others : List PatternSymbol}

theorem refl (hplain : progress.IsPlain) (unread : List PatternSymbol) :
    ReadsOver progress unread unread :=
  ⟨progress, .refl _ _, hplain, rfl⟩

theorem trans (h : ReadsOver progress unread rest)
    (hothers : ∀ following : Progress, following.IsPlain → ReadsOver following rest others) :
    ReadsOver progress unread others := by
  obtain ⟨following, hreach, hplain, houter⟩ := h
  obtain ⟨last, hlast, hlastPlain, hlastOuter⟩ := hothers following hplain
  exact ⟨last, hreach.trans hlast, hlastPlain, hlastOuter.trans houter⟩

end ReadsOver

/-! ## Literal characters -/

def metacharacters : List Char :=
  ['\\', '.', '^', '$', '*', '+', '?', '\x7b', '[', '(', ')', '|']

def isLiteral (char : Char) : Bool := !metacharacters.contains char

theorem ne_of_isLiteral {char other : Char} (h : isLiteral char = true)
    (hother : isLiteral other = false) : char ≠ other := by
  rintro rfl
  rw [h] at hother
  contradiction

theorem isLiteral_of_isIdentifierPart {char : Char} (h : isIdentifierPart char = true) :
    isLiteral char = true := by
  by_contra hmeta
  have hmem : char ∈ metacharacters := by simpa [isLiteral] using hmeta
  simp only [metacharacters, List.mem_cons, List.not_mem_nil, or_false] at hmem
  rcases hmem with rfl | rfl | rfl | rfl | rfl | rfl | rfl | rfl | rfl | rfl | rfl | rfl
  all_goals contradiction

def Frame.addLiterals (frame : Frame) (chars : List Char) : Frame :=
  chars.foldl (fun frame char => frame.addItem (frame.literal char.toNat) .other) frame

section Literals

variable {progress : Progress} {rest : List PatternSymbol}

private theorem readItem_literal {char : Char} (hchar : isLiteral char = true)
    (hmode : progress.frame.mode = {}) (here : List PatternSymbol) :
    readItem progress here char =
      pure (progress.addItem (progress.frame.literal char.toNat) .other) := by
  unfold readItem
  simp only [hmode, Bool.false_and, Bool.false_eq_true, if_false]
  split
  case h_10 => rfl
  all_goals contradiction

theorem reaches_literals {chars : List Char} (h : ∀ char ∈ chars, isLiteral char = true)
    (hmode : progress.frame.mode = {}) (hrest : rest ≠ [loneBackslash]) :
    Reaches progress (chars.map plain ++ rest)
      (progress.setFrame (progress.frame.addLiterals chars)) rest := by
  induction chars generalizing progress with
  | nil => exact .refl _ _
  | cons char chars ih =>
      obtain ⟨hchar, hchars⟩ := List.forall_mem_cons.mp h
      have hothers : chars.map plain ++ rest ≠ [loneBackslash] := by
        cases chars with
        | nil => exact hrest
        | cons second chars => simp
      have hstep : (readStep progress).run (plain char :: (chars.map plain ++ rest)) =
          .ok (.inl (progress.addItem (progress.frame.literal char.toNat) .other),
            chars.map plain ++ rest) := by
        refine run_readStep_plain (ne_of_isLiteral hchar rfl) (ne_of_isLiteral hchar rfl) hothers ?_
        rw [readItem_literal hchar hmode]
        rfl
      exact (Reaches.of_step hstep).trans (ih hchars hmode)

theorem Frame.IsPlain.addLiterals {frame : Frame} (h : frame.IsPlain) (chars : List Char) :
    (frame.addLiterals chars).IsPlain := by
  induction chars generalizing frame with
  | nil => exact h
  | cons char chars ih => exact ih (h.addItem rfl .other)

theorem readsOver_literals {chars : List Char} (h : ∀ char ∈ chars, isLiteral char = true)
    (hplain : progress.IsPlain) (hrest : rest ≠ [loneBackslash]) :
    ReadsOver progress (chars.map plain ++ rest) rest :=
  ⟨_, reaches_literals h hplain.frame.mode hrest,
    hplain.setFrame (hplain.frame.addLiterals chars), rfl⟩

end Literals

theorem exists_reads_of_readsOver {text : String} (hstart : ofText text.toList ≠ [loneBackslash])
    (h : ReadsOver {} (ofText text.toList) []) :
    ∃ finished, Reads text finished ∧ finished.groups = {} ∧ finished.wholeFlags = [] := by
  obtain ⟨following, hreach, hplain, houter⟩ := h
  refine ⟨following, ⟨hstart, hreach.run_untilDone houter, ?_, ?_, ?_⟩, hplain.groups,
    hplain.wholeFlags⟩
  · simp [hplain.wholeFlags]
  · simp [hplain.conditions]
  · rw [hplain.wholeFlags]
    exact hplain.frame.defect?_pattern

end ShaderTokens.Pattern
