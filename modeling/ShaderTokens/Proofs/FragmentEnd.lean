import ShaderTokens.Proofs.FragmentReading

/-!
# Reading a fragment to its end

A fragment that can be read on its own is read to its end inside a longer pattern, or the reading is
refused there because the fragment sets flags for the whole pattern.
-/

namespace ShaderTokens.Pattern

open PatternSymbol Reader

/-! ## Flags for the whole pattern -/

def Progress.KeepsFlags (progress following : Progress) : Prop :=
  progress.wholeFlags <+: following.wholeFlags

section Flags

variable (progress : Progress)

theorem Progress.keepsFlags_addItem (pattern : Pattern) (kind : ItemKind) :
    progress.KeepsFlags (progress.addItem pattern kind) :=
  List.prefix_rfl

theorem yields_readEscape (char : Char) :
    Yields progress.KeepsFlags (readEscape progress char) := by
  unfold readEscape
  dsimp only
  split
  next => exact .pure (progress.keepsFlags_addItem _ _)
  next => exact .pure (progress.keepsFlags_addItem _ _)
  next => exact .pure (progress.keepsFlags_addItem _ _)
  next =>
    split
    next => exact Yields.bind_any fun code => .pure (progress.keepsFlags_addItem _ _)
    next =>
      split
      next =>
        refine Yields.bind_any fun found => ?_
        cases found with
        | inl code => exact .pure (progress.keepsFlags_addItem _ _)
        | inr backward => exact .pure (progress.keepsFlags_addItem _ _)
      next => exact Yields.bind_any fun code => .pure (progress.keepsFlags_addItem _ _)

theorem yields_applyQuantifier (here : List PatternSymbol) (quantifier : Quantifier) :
    Yields progress.KeepsFlags (applyQuantifier progress here quantifier) := by
  unfold applyQuantifier
  split
  next => exact .of_fails (fails_failAt _ _)
  next =>
    split
    next => exact .of_fails (fails_failAt _ _)
    next => exact .of_fails (fails_failAt _ _)
    next => exact Yields.bind_any fun greed => .pure List.prefix_rfl

theorem yields_openGroup (here : List PatternSymbol) :
    Yields progress.KeepsFlags (openGroup progress here) := by
  refine Yields.bind_any fun found => ?_
  obtain ⟨opening, groups⟩ := found
  cases opening with
  | comment => exact .pure List.prefix_rfl
  | reference backward => exact .pure List.prefix_rfl
  | wholeFlags flags =>
      dsimp only
      split
      next => exact .pure (List.prefix_append _ _)
      next => exact .of_fails (fails_failAt _ _)
  | encloses enclosure turnedOn turnedOff => exact .pure List.prefix_rfl
  | encloseIf group unread => exact .pure List.prefix_rfl

theorem yields_readItem (here : List PatternSymbol) (char : Char) :
    Yields progress.KeepsFlags (readItem progress here char) := by
  unfold readItem
  dsimp only
  split
  next => exact .pure List.prefix_rfl
  next =>
    split
    next => exact Yields.bind_any fun _ => Yields.bind_any fun _ => .pure List.prefix_rfl
    next =>
      split
      next => exact Yields.bind_any fun _ => .pure (progress.keepsFlags_addItem _ _)
      next => exact yields_openGroup progress here
      next => exact .pure (progress.keepsFlags_addItem _ _)
      next => exact .pure (progress.keepsFlags_addItem _ _)
      next => exact .pure (progress.keepsFlags_addItem _ _)
      case h_10 => exact .pure (progress.keepsFlags_addItem _ _)
      all_goals
        refine Yields.bind_any fun quantifier? => ?_
        cases quantifier? with
        | none => exact .pure (progress.keepsFlags_addItem _ _)
        | some quantifier => exact yields_applyQuantifier progress here quantifier

theorem yields_readStep :
    Yields (Sum.elim progress.KeepsFlags progress.KeepsFlags) (readStep progress) := by
  refine Yields.bind_any fun here => ?_
  split
  next => exact .pure List.prefix_rfl
  next => exact .of_fails (fails_failAt _ _)
  next => exact .pure List.prefix_rfl
  next => exact Yields.bind_any fun _ => .pure List.prefix_rfl
  next =>
    have hbranch : Yields (Sum.elim progress.KeepsFlags progress.KeepsFlags)
        (do
          let _ ← next?
          return .inl (progress.setFrame progress.frame.nextBranch)) :=
      Yields.bind_any fun _ => .pure List.prefix_rfl
    exact .ite (.of_fails (fails_fail _)) hbranch
  next =>
    refine Yields.bind_any fun _ => ?_
    split
    next => exact (yields_readItem progress here _).bind fun _ h => .pure h
    next => exact (yields_readEscape progress _).bind fun _ h => .pure h
    next => exact .of_fails (fails_failAt _ _)

end Flags

/-! ## Reading on -/

inductive StepsTo : Nat → Progress → List PatternSymbol → Progress → List PatternSymbol → Prop
  | refl (progress : Progress) (unread : List PatternSymbol) :
      StepsTo 0 progress unread progress unread
  | step {count : Nat} {progress between following : Progress}
      {unread unread' rest : List PatternSymbol}
      (hstep : (readStep progress).run unread = .ok (.inl between, unread'))
      (hothers : StepsTo count between unread' following rest) :
      StepsTo (count + 1) progress unread following rest

namespace StepsTo

variable {count others : Nat} {progress following last : Progress}
  {unread rest stop : List PatternSymbol}

theorem trans (h : StepsTo count progress unread following rest)
    (hothers : StepsTo others following rest last stop) :
    StepsTo (others + count) progress unread last stop := by
  induction h with
  | refl => exact hothers
  | step hstep _ ih => exact .step hstep (ih hothers)

theorem run_iterate (h : StepsTo count progress unread following rest) (stalled : Fault)
    (limit : Nat) :
    (Reading.iterate stalled readStep (limit + count) progress).run unread =
      (Reading.iterate stalled readStep limit following).run rest := by
  induction h with
  | refl => rfl
  | step hstep _ ih =>
      rw [← Nat.add_assoc, Reading.iterate, Reader.run_bind_of_eq_ok hstep]
      exact ih

end StepsTo

/-- Reading goes on to a later place, in no more steps than there are symbols between. -/
def Reaches (progress : Progress) (unread : List PatternSymbol) (following : Progress)
    (rest : List PatternSymbol) : Prop :=
  ∃ count, StepsTo count progress unread following rest ∧ count + rest.length ≤ unread.length

def IsRefused (progress : Progress) (unread : List PatternSymbol) : Prop :=
  ∃ count following rest flagged, StepsTo count progress unread following rest ∧
    count ≤ unread.length ∧
    (readStep following).run rest = .error (.malformed .flagsNotAtStart flagged 0)

namespace Reaches

variable {progress following last : Progress} {unread rest others : List PatternSymbol}

theorem refl (progress : Progress) (unread : List PatternSymbol) :
    Reaches progress unread progress unread :=
  ⟨0, .refl _ _, by omega⟩

theorem trans (h : Reaches progress unread following rest)
    (hothers : Reaches following rest last others) : Reaches progress unread last others := by
  obtain ⟨count, hsteps, hcount⟩ := h
  obtain ⟨count', hsteps', hcount'⟩ := hothers
  exact ⟨_, hsteps.trans hsteps', by omega⟩

theorem step (hstep : (readStep progress).run unread = .ok (.inl following, rest))
    (hshorter : rest.length < unread.length) (hothers : Reaches following rest last others) :
    Reaches progress unread last others := by
  obtain ⟨count, hsteps, hcount⟩ := hothers
  exact ⟨count + 1, .step hstep hsteps, by omega⟩

theorem of_step {symbol : PatternSymbol}
    (h : (readStep progress).run (symbol :: rest) = .ok (.inl following, rest)) :
    Reaches progress (symbol :: rest) following rest :=
  .step h (Nat.lt_succ_self _) (.refl _ _)

theorem isRefused (h : Reaches progress unread following rest)
    (hrefused : IsRefused following rest) :
    IsRefused progress unread := by
  obtain ⟨count, hsteps, hcount⟩ := h
  obtain ⟨count', last, stop, flagged, hsteps', hcount', hrun⟩ := hrefused
  exact ⟨_, last, stop, flagged, hsteps.trans hsteps', by omega, hrun⟩

theorem run_untilDone (h : Reaches progress unread following []) (houter : following.outer = []) :
    (untilDone readStep progress).run unread = .ok (following, []) := by
  obtain ⟨count, hsteps, hcount⟩ := h
  obtain ⟨limit, hlimit⟩ : ∃ limit, unread.length + 1 = limit + 1 + count :=
    ⟨unread.length - count, by simp at hcount; omega⟩
  have hend : (readStep following).run [] = .ok (.inr following, []) := by
    simp only [readStep, StateT.run_bind, StateT.run_get, pure_bind, List.head?_nil, houter]
    rfl
  change (Reading.iterate _ readStep (unread.length + 1) progress).run unread = _
  rw [hlimit, hsteps.run_iterate, Reading.iterate, Reader.run_bind_of_eq_ok hend]
  rfl

end Reaches

theorem IsRefused.run_untilDone {progress : Progress} {unread : List PatternSymbol}
    (h : IsRefused progress unread) :
    ∃ flagged, (untilDone readStep progress).run unread =
      .error (.malformed .flagsNotAtStart flagged 0) := by
  obtain ⟨count, following, rest, flagged, hsteps, hcount, hrun⟩ := h
  obtain ⟨limit, hlimit⟩ : ∃ limit, unread.length + 1 = limit + 1 + count :=
    ⟨unread.length - count, by omega⟩
  refine ⟨flagged, ?_⟩
  change (Reading.iterate _ readStep (unread.length + 1) progress).run unread = _
  rw [hlimit, hsteps.run_iterate, Reading.iterate, StateT.run_bind, hrun]
  rfl

/-! ## Reading a fragment to its end -/

section Fragment

variable {stalled : Fault} {limit : Nat} {progress finished : Progress}
  {unread : List PatternSymbol}

theorem eq_of_run_iterate_nil
    (h : (Reading.iterate stalled readStep limit progress).run [] = .ok (finished, [])) :
    progress.outer = [] ∧ finished = progress := by
  cases limit with
  | zero => cases h
  | succ limit =>
      obtain ⟨outcome, between, hstep, hnext⟩ := Reader.run_bind_eq_ok h
      obtain ⟨houter, rfl, rfl⟩ := eq_of_run_readStep_nil hstep
      cases hnext
      exact ⟨houter, rfl⟩

private theorem keepsFlags_of_run_iterate {rest : List PatternSymbol}
    (h : (Reading.iterate stalled readStep limit progress).run unread = .ok (finished, rest)) :
    progress.KeepsFlags finished := by
  have hstep : ∀ state, progress.KeepsFlags state →
      Yields (Sum.elim progress.KeepsFlags progress.KeepsFlags) (readStep state) := by
    intro state hstate unread outcome rest hrun
    have hkeeps := yields_readStep state _ _ _ hrun
    cases outcome with
    | inl following => exact hstate.trans hkeeps
    | inr result => exact hstate.trans hkeeps
  exact yields_iterate hstep stalled limit List.prefix_rfl _ _ _ h

variable {tail short long : List PatternSymbol} {host : List Frame} {alone joined : Progress}

private theorem run_iterate_cases (h : Inside host alone joined) (hhost : tail ≠ [] → host ≠ [])
    (hplace : Continues tail short long)
    (hrun : (Reading.iterate stalled readStep limit alone).run short = .ok (finished, [])) :
    (∃ count joined', StepsTo count joined long joined' tail ∧ count < limit ∧
      Inside host finished joined' ∧ finished.outer = [] ∧ tail ≠ []) ∨
    (∃ count joined' rest flagged, StepsTo count joined long joined' rest ∧ count < limit ∧
      (readStep joined').run rest = .error (.malformed .flagsNotAtStart flagged 0) ∧
      host ≠ [] ∧ finished.wholeFlags ≠ []) := by
  induction limit generalizing alone joined short long with
  | zero => cases hrun
  | succ limit ih =>
      obtain ⟨outcome, short', hstep, hnext⟩ := Reader.run_bind_eq_ok hrun
      cases outcome with
      | inr _ =>
          cases hnext
          obtain ⟨rfl, rfl, houter⟩ := readStep_eq_inr_nil hstep
          have hlong := hplace.head?_of_nil
          obtain rfl : long = tail := hplace.eq_append
          refine .inl ⟨0, joined, .refl _ _, Nat.succ_pos _, h, houter, ?_⟩
          rintro rfl
          cases hlong
      | inl alone' =>
          cases answer_readStep h hhost hplace hstep with
          | carried hjoined hinside hstop =>
              rcases ih hinside hstop hnext with
                ⟨count, joined', hsteps, hcount, hend⟩ |
                ⟨count, joined', rest, flagged, hsteps, hcount, hend⟩
              · exact .inl ⟨count + 1, joined', .step hjoined hsteps, by omega, hend⟩
              · exact .inr ⟨count + 1, joined', rest, flagged, .step hjoined hsteps, by omega, hend⟩
          | swallowed hend houter =>
              subst hend
              exact absurd (eq_of_run_iterate_nil hnext).1 houter
          | refused hhost hflags hjoined =>
              have hkeeps := keepsFlags_of_run_iterate hnext
              refine .inr ⟨0, joined, long, _, .refl _ _, Nat.succ_pos _, hjoined, hhost, ?_⟩
              intro hempty
              exact hflags (List.prefix_nil.mp (hempty ▸ hkeeps))

/-- A fragment that can be read on its own is read inside a longer pattern just so, unless it sets
flags for the whole pattern. -/
theorem run_untilDone_cases (h : Inside host alone joined) (hhost : tail ≠ [] → host ≠ [])
    (hplace : Continues tail short long)
    (hrun : (untilDone readStep alone).run short = .ok (finished, [])) :
    (∃ joined', Reaches joined long joined' tail ∧ Inside host finished joined' ∧
      finished.outer = [] ∧ tail ≠ []) ∨
    (IsRefused joined long ∧ host ≠ [] ∧ finished.wholeFlags ≠ []) := by
  have hlength : long.length = short.length + tail.length := by
    rw [hplace.eq_append, List.length_append]
  rcases run_iterate_cases h hhost hplace hrun with
    ⟨count, joined', hsteps, hcount, hinside, houter, htail⟩ |
    ⟨count, joined', rest, flagged, hsteps, hcount, hrefused, hhost, hflags⟩
  · exact .inl ⟨joined', ⟨count, hsteps, by omega⟩, hinside, houter, htail⟩
  · exact .inr ⟨⟨count, joined', rest, flagged, hsteps, by omega, hrefused⟩, hhost, hflags⟩

end Fragment

end ShaderTokens.Pattern
