import Mathlib.Data.List.Forall2
import ShaderTokens.Pattern.Read
import ShaderTokens.Proofs.ReaderLocality

/-!
# Reading a fragment inside an open group

A fragment is read on its own and inside a group of a longer pattern.  Step by step both readings
have the same frames, apart from those of the longer pattern around the group, so the fragment
becomes the same pattern in both.  Only flags for the whole pattern can be read on their own and not
inside the group.
-/

namespace ShaderTokens.Pattern

open PatternSymbol Reader

/-! ## Progress inside a host -/

def Frame.Alike (first second : Frame) : Prop :=
  ∃ opening, second = { first with opening }

namespace Frame.Alike

variable {first second : Frame}

theorem pattern_eq (h : first.Alike second) : second.pattern = first.pattern := by
  obtain ⟨opening, rfl⟩ := h
  rfl

theorem enclosure_eq (h : first.Alike second) : second.enclosure = first.enclosure := by
  obtain ⟨opening, rfl⟩ := h
  rfl

theorem mode_eq (h : first.Alike second) : second.mode = first.mode := by
  obtain ⟨opening, rfl⟩ := h
  rfl

theorem addItem (h : first.Alike second) (pattern : Pattern) (kind : ItemKind) :
    (first.addItem pattern kind).Alike (second.addItem pattern kind) := by
  obtain ⟨opening, rfl⟩ := h
  exact ⟨opening, rfl⟩

theorem nextBranch (h : first.Alike second) : first.nextBranch.Alike second.nextBranch := by
  obtain ⟨opening, rfl⟩ := h
  exact ⟨opening, rfl⟩

end Frame.Alike

namespace Progress

def wholeMode (progress : Progress) : Mode :=
  (progress.outer.map Frame.mode).getLastD progress.frame.mode

def Counted (progress : Progress) : Prop :=
  1 < progress.groups.opened ∨ progress.groups = {} ∧
    ∀ frame ∈ progress.frame :: progress.outer, ∀ group, frame.enclosure ≠ .capture group

theorem Counted.closeGroup {progress : Progress} (h : progress.Counted) {parent : Frame}
    {outer : List Frame} (houter : progress.outer = parent :: outer) :
    (Reader.closeGroup progress parent outer).Counted := by
  rcases h with hopened | ⟨hempty, hframes⟩
  · left
    simp only [Reader.closeGroup]
    split
    next => exact hopened
    next => exact hopened
  · right
    rw [houter] at hframes
    constructor
    · simp only [Reader.closeGroup]
      split
      next group hcapture => exact absurd hcapture (hframes _ (by simp) group)
      next => exact hempty
    · intro frame hframe
      rcases List.mem_cons.mp hframe with rfl | hframe
      · exact hframes parent (by simp)
      · exact hframes frame (List.mem_cons_of_mem _ (List.mem_cons_of_mem _ hframe))

end Progress

/-- What has been read of a fragment on its own and inside the frames `host`.  Only on its own may a
fragment set the flags of the whole pattern. -/
structure Inside (host : List Frame) (alone joined : Progress) : Prop where
  frame : alone.frame.Alike joined.frame
  outer : ∃ outer, joined.outer = outer ++ host ∧ List.Forall₂ Frame.Alike alone.outer outer
  groups : joined.groups = alone.groups
  mode : host ≠ [] → alone.wholeMode = {}
  counted : alone.Counted
  wholeFlags : joined.wholeFlags = alone.wholeFlags
  unflagged : host ≠ [] → alone.wholeFlags = []
  conditions : ∀ condition ∈ joined.conditions,
    condition.1 = 0 ∨ condition.1 ∈ alone.conditions.map Prod.fst

namespace Inside

variable {host : List Frame} {alone joined : Progress}

theorem setFrame (h : Inside host alone joined) {frame frame' : Frame}
    (hframe : frame.Alike frame') (hmode : frame.mode = alone.frame.mode)
    (henclosure : frame.enclosure = alone.frame.enclosure) :
    Inside host (alone.setFrame frame) (joined.setFrame frame') where
  frame := hframe
  outer := h.outer
  groups := h.groups
  mode := fun hhost => by simpa [Progress.wholeMode, Progress.setFrame, hmode] using h.mode hhost
  counted := by simpa [Progress.Counted, Progress.setFrame, henclosure] using h.counted
  wholeFlags := h.wholeFlags
  unflagged := h.unflagged
  conditions := h.conditions

theorem addItem (h : Inside host alone joined) (pattern : Pattern) (kind : ItemKind) :
    Inside host (alone.addItem pattern kind) (joined.addItem pattern kind) :=
  h.setFrame (h.frame.addItem pattern kind) rfl rfl

theorem nextBranch (h : Inside host alone joined) :
    Inside host (alone.setFrame alone.frame.nextBranch)
      (joined.setFrame joined.frame.nextBranch) :=
  h.setFrame h.frame.nextBranch rfl rfl

theorem isAtStart_iff (h : Inside host alone joined) :
    joined.isAtStart = true ↔ host = [] ∧ alone.isAtStart = true := by
  obtain ⟨outer, houter, halike⟩ := h.outer
  obtain ⟨opening, hframe⟩ := h.frame
  have hempty : outer = [] ↔ alone.outer = [] := by
    rw [← List.length_eq_zero_iff, ← halike.length_eq, List.length_eq_zero_iff]
  simp only [Progress.isAtStart, houter, hframe, Bool.and_eq_true, List.isEmpty_iff,
    List.append_eq_nil_iff, hempty]
  tauto

theorem setWholeFlags (h : Inside [] alone joined) (mode : Mode) (flags : List Flag) :
    Inside []
      { alone with
        frame := { alone.frame with mode }
        wholeFlags := alone.wholeFlags ++ flags }
      { joined with
        frame := { joined.frame with mode }
        wholeFlags := joined.wholeFlags ++ flags } where
  frame := by
    obtain ⟨opening, hframe⟩ := h.frame
    exact ⟨opening, by rw [hframe]⟩
  outer := h.outer
  groups := h.groups
  mode := by simp
  counted := by simpa [Progress.Counted] using h.counted
  wholeFlags := by rw [h.wholeFlags]
  unflagged := by simp
  conditions := h.conditions

theorem enclose (h : Inside host alone joined) {groups : Groups} {enclosure : Enclosure}
    (hgroups : alone.groups.opened < groups.opened ∨
      groups = alone.groups ∧ ∀ group, enclosure ≠ .capture group)
    (here here' : List PatternSymbol) (mode : Mode)
    {conditions conditions' : List (Nat × List PatternSymbol)}
    (hconditions : ∀ condition ∈ conditions',
      condition.1 = 0 ∨ condition.1 ∈ conditions.map Prod.fst) :
    Inside host
      { alone with
        groups, conditions
        frame := alone.frame.enclose groups enclosure here mode
        outer := alone.frame :: alone.outer }
      { joined with
        groups, conditions := conditions'
        frame := joined.frame.enclose groups enclosure here' mode
        outer := joined.frame :: joined.outer } := by
  obtain ⟨outer, houter, halike⟩ := h.outer
  constructor
  case frame =>
    obtain ⟨opening, hopening⟩ := h.frame
    exact ⟨here', by rw [hopening]; rfl⟩
  case outer => exact ⟨joined.frame :: outer, by simp [houter], .cons h.frame halike⟩
  case groups => rfl
  case mode =>
    intro hhost
    rw [Progress.wholeMode, List.map_cons, List.getLastD_cons]
    exact h.mode hhost
  case counted =>
    rcases hgroups with hopened | ⟨rfl, henclosure⟩
    · refine .inl (show 1 < groups.opened from ?_)
      rcases h.counted with hcounted | ⟨hgroups, -⟩
      · exact Nat.lt_trans hcounted hopened
      · rw [hgroups] at hopened
        exact hopened
    · refine h.counted.imp id fun ⟨hgroups, hframes⟩ => ⟨hgroups, ?_⟩
      intro frame hframe
      rcases List.mem_cons.mp hframe with rfl | hframe
      · exact henclosure
      · exact hframes frame hframe
  case wholeFlags => exact h.wholeFlags
  case unflagged => exact h.unflagged
  case conditions => exact hconditions

theorem addCondition (h : Inside host alone joined) (group : Nat)
    (unread unread' : List PatternSymbol) :
    ∀ condition ∈ joined.conditions ++ [(group, unread')],
      condition.1 = 0 ∨ condition.1 ∈ (alone.conditions ++ [(group, unread)]).map Prod.fst := by
  intro condition hcondition
  rw [List.map_append, List.mem_append]
  rcases List.mem_append.mp hcondition with hearlier | hlast
  · exact (h.conditions condition hearlier).imp_right .inl
  · obtain rfl := List.mem_singleton.mp hlast
    exact .inr (.inr List.mem_cons_self)

theorem closeGroup (h : Inside host alone joined) {parent : Frame} {outer : List Frame}
    (houter : alone.outer = parent :: outer) :
    ∃ parent' outer', joined.outer = parent' :: outer' ∧
      Inside host (Reader.closeGroup alone parent outer)
        (Reader.closeGroup joined parent' outer') := by
  obtain ⟨joinedOuter, hjoined, halike⟩ := h.outer
  rw [houter] at halike
  obtain ⟨parent', outer', hparent, halike', rfl⟩ := List.forall₂_cons_left_iff.mp halike
  refine ⟨parent', outer' ++ host, by rw [hjoined, List.cons_append], ?_⟩
  constructor
  case frame =>
    simp only [Reader.closeGroup, h.frame.pattern_eq]
    exact hparent.addItem _ _
  case outer => exact ⟨outer', rfl, halike'⟩
  case groups =>
    simp only [Reader.closeGroup, h.frame.pattern_eq, h.frame.enclosure_eq, h.groups]
  case mode =>
    intro hhost
    have hmode := h.mode hhost
    rw [Progress.wholeMode, houter, List.map_cons, List.getLastD_cons] at hmode
    exact hmode
  case counted => exact h.counted.closeGroup houter
  case wholeFlags => exact h.wholeFlags
  case unflagged => exact h.unflagged
  case conditions => exact h.conditions

end Inside

/-! ## Items -/

section Items

variable {tail : List PatternSymbol} {host : List Frame} {alone joined : Progress}

theorem carries_readEscape (h : Inside host alone joined) (char : Char) :
    Carries tail (Inside host) (readEscape alone char) (readEscape joined char) := by
  obtain ⟨opening, hframe⟩ := h.frame
  have hliteral : ∀ code, joined.frame.literal code = alone.frame.literal code := by
    intro code
    rw [hframe]
    rfl
  unfold readEscape
  simp only [hliteral, h.groups]
  rw [hframe]
  dsimp only
  split
  next => exact .pure (h.addItem _ _)
  next => exact .pure (h.addItem _ _)
  next => exact .pure (h.addItem _ _)
  next =>
    split
    next => exact (isLocal_readOctalEscape char).bind_eq fun _ => .pure (h.addItem _ _)
    next =>
      split
      next =>
        refine (isLocal_readNumericEscape _ _ char).bind_eq fun found => ?_
        cases found with
        | inl code => exact .pure (h.addItem _ _)
        | inr backward => exact .pure (h.addItem _ _)
      next => exact (isLocal_readCommonEscape char).bind_eq fun _ => .pure (h.addItem _ _)

theorem carries_applyQuantifier (h : Inside host alone joined) (here here' : List PatternSymbol)
    (quantifier : Quantifier) :
    Carries tail (Inside host) (applyQuantifier alone here quantifier)
      (applyQuantifier joined here' quantifier) := by
  obtain ⟨opening, hframe⟩ := h.frame
  unfold applyQuantifier
  rw [hframe]
  dsimp only
  split
  next => exact .of_fails (fails_failAt _ _) _
  next =>
    split
    next => exact .of_fails (fails_failAt _ _) _
    next => exact .of_fails (fails_failAt _ _) _
    next =>
      refine isLocal_readGreed.bind_eq fun greed => ?_
      exact .pure (h.setFrame ⟨opening, rfl⟩ rfl rfl)

/-- A group is opened in both readings, unless the fragment on its own sets flags for the whole
pattern there. -/
theorem openGroup_cases (h : Inside host alone joined) {short long : List PatternSymbol}
    (hplace : Continues tail short long) (here here' : List PatternSymbol) {alone' : Progress}
    {short' : List PatternSymbol} (hrun : (openGroup alone here).run short = .ok (alone', short')) :
    (∃ joined' long', (openGroup joined here').run long = .ok (joined', long') ∧
      Inside host alone' joined' ∧ Continues tail short' long') ∨
    host ≠ [] ∧ alone'.wholeFlags ≠ [] ∧
      (openGroup joined here').run long = .error (.malformed .flagsNotAtStart here' 0) := by
  have hstart := h.isAtStart_iff
  obtain ⟨frame, outer, groups, conditions, wholeFlags⟩ := joined
  obtain rfl : groups = alone.groups := h.groups
  obtain ⟨opening, rfl⟩ : ∃ opening, frame = { alone.frame with opening } := h.frame
  obtain ⟨found, between, hopening, hrest⟩ := Reader.run_bind_eq_ok hrun
  obtain ⟨found', between', hopening', hfound, hbetween⟩ :=
    carries_readOpening here here' alone.groups _ short long hplace _ _ hopening
  rw [openGroup, Reader.run_bind_of_eq_ok hopening']
  have hcarried : ∀ {alone' joined' : Progress}, Inside host alone' joined' →
      CarriesAt tail (Inside host) (pure alone') (pure joined') between between' :=
    fun h' => Carries.pure h' between between' hbetween
  rcases hfound with ⟨group, unread, unread'⟩ | ⟨group, opened, hopened⟩ | ⟨found, hcapture, hflags⟩
  · exact .inl (hcarried (h.enclose (.inr ⟨rfl, by simp⟩) _ _ _ (h.addCondition _ _ _)) _ _ hrest)
  · refine .inl (hcarried (h.enclose (.inl ?_) _ _ _ h.conditions) _ _ hrest)
    rw [hopened]
    exact Nat.lt_succ_self _
  · cases found with
    | comment => exact .inl (hcarried h _ _ hrest)
    | reference backward => exact .inl (hcarried (h.addItem _ _) _ _ hrest)
    | wholeFlags flags =>
        dsimp only at hrest ⊢
        split at hrest
        next halone =>
          by_cases hhost : host = []
          · subst hhost
            rw [if_pos (hstart.mpr ⟨rfl, halone⟩)]
            exact .inl (hcarried (h.setWholeFlags (alone.frame.mode.change flags []) flags) _ _
              hrest)
          · right
            rw [if_neg fun hjoined => hhost (hstart.mp hjoined).1]
            cases hrest
            refine ⟨hhost, ?_, rfl⟩
            simp only [ne_eq, List.append_eq_nil_iff, not_and]
            rintro - rfl
            exact hflags rfl
        next => cases hrest
    | encloses enclosure turnedOn turnedOff =>
        refine .inl (hcarried (h.enclose (.inr ⟨rfl, ?_⟩) _ _ _ h.conditions) _ _ hrest)
        rintro group rfl
        cases hcapture
    | encloseIf group unread =>
        exact .inl (hcarried (h.enclose (.inr ⟨rfl, by simp⟩) _ _ _ (h.addCondition _ _ _)) _ _
          hrest)

theorem carries_readItem (h : Inside host alone joined) (here here' : List PatternSymbol)
    {char : Char} (hcomment : ¬(alone.frame.mode.verbose && char = '#')) (hopen : char ≠ '(') :
    Carries tail (Inside host) (readItem alone here char) (readItem joined here' char) := by
  obtain ⟨frame, outer, groups, conditions, wholeFlags⟩ := joined
  obtain ⟨opening, rfl⟩ : ∃ opening, frame = { alone.frame with opening } := h.frame
  unfold readItem
  dsimp only
  rw [if_neg hcomment, if_neg hcomment]
  split
  next => exact .pure h
  next =>
    split
    next =>
      refine (carries_readSet here here').bind_eq fun members => ?_
      exact .pure (h.addItem _ _)
    next => contradiction
    next => exact .pure (h.addItem _ _)
    next => exact .pure (h.addItem _ _)
    next => exact .pure (h.addItem _ _)
    case h_10 => exact .pure (h.addItem _ _)
    all_goals
      refine (isLocal_readQuantifier _).bind_eq fun quantifier? => ?_
      cases quantifier? with
      | none => exact .pure (h.addItem _ _)
      | some quantifier => exact carries_applyQuantifier h here here' quantifier

end Items

/-! ## Steps -/

section Steps

variable {tail short long : List PatternSymbol} {host : List Frame} {alone joined : Progress}

def StepsAgree (host : List Frame) (outcome outcome' : Progress ⊕ Progress) : Prop :=
  ∃ alone joined, outcome = .inl alone ∧ outcome' = .inl joined ∧ Inside host alone joined

theorem eq_of_run_readStep_nil {progress : Progress} {outcome : Progress ⊕ Progress}
    {rest : List PatternSymbol} (h : (readStep progress).run [] = .ok (outcome, rest)) :
    progress.outer = [] ∧ outcome = .inr progress ∧ rest = [] := by
  simp only [readStep, StateT.run_bind, StateT.run_get, pure_bind, List.head?_nil] at h
  cases houter : progress.outer <;> rw [houter] at h <;> cases h
  exact ⟨rfl, rfl, rfl⟩

@[simp] theorem run_readStep_unopened {progress : Progress} (houter : progress.outer = [])
    (unread : List PatternSymbol) :
    (readStep progress).run (plain ')' :: unread) = .ok (.inr progress, plain ')' :: unread) := by
  rw [readStep, StateT.run_bind, houter]
  rfl

@[simp] theorem run_readStep_closing {progress : Progress} {parent : Frame} {outer : List Frame}
    (houter : progress.outer = parent :: outer) (unread : List PatternSymbol) :
    (readStep progress).run (plain ')' :: unread) =
      (do
        let _ ← next?
        return .inl (closeGroup progress parent outer) : Reader _).run (plain ')' :: unread) := by
  rw [readStep, StateT.run_bind, houter]
  rfl

@[simp] theorem run_readStep_bar (progress : Progress) (unread : List PatternSymbol) :
    (readStep progress).run (plain '|' :: unread) =
      (do
        if progress.frame.enclosure matches .conditional && !progress.frame.branches.isEmpty then
          fail .tooManyBranches
        else
          let _ ← next?
          return .inl (progress.setFrame progress.frame.nextBranch) : Reader _).run
        (plain '|' :: unread) := by
  rw [readStep, StateT.run_bind]
  cases progress.outer <;> rfl

theorem run_readStep_of_ordinary {symbol : PatternSymbol} (hclose : symbol ≠ plain ')')
    (hbar : symbol ≠ plain '|') (progress : Progress) (unread : List PatternSymbol) :
    (readStep progress).run (symbol :: unread) =
      (do
        let _ ← next?
        match symbol with
        | .plain char => return .inl (← readItem progress (symbol :: unread) char)
        | .escaped char => return .inl (← readEscape progress char)
        | .loneBackslash => failAt .loneBackslash (symbol :: unread) : Reader _).run
          (symbol :: unread) := by
  simp only [readStep, StateT.run_bind, StateT.run_get, pure_bind, List.head?_cons]
  split
  next h _ => cases h
  next h _ => cases h
  next h _ => exact absurd (Option.some.inj h) hclose
  next h _ => exact absurd (Option.some.inj h) hclose
  next h => exact absurd (Option.some.inj h) hbar
  next h _ _ =>
    cases h
    rfl

private theorem carriesAt_readStep_close (h : Inside host alone joined) (houter : alone.outer ≠ [])
    (hplace : Continues tail (plain ')' :: short) long) :
    CarriesAt tail (StepsAgree host) (readStep alone) (readStep joined)
      (plain ')' :: short) long := by
  obtain ⟨parent, outer, houter⟩ := List.exists_cons_of_ne_nil houter
  obtain ⟨parent', outer', houter', hclosed⟩ := h.closeGroup houter
  obtain rfl := hplace.eq_append
  refine .of_run_eq (run_readStep_closing houter short) (run_readStep_closing houter' _) ?_
  refine (carriesAt_next?_cons hplace).bind ?_
  intro _ _ between between' _ _ hplace'
  exact Carries.pure ⟨_, _, rfl, rfl, hclosed⟩ between between' hplace'

private theorem carriesAt_readStep_bar (h : Inside host alone joined)
    (hplace : Continues tail (plain '|' :: short) long) :
    CarriesAt tail (StepsAgree host) (readStep alone) (readStep joined)
      (plain '|' :: short) long := by
  obtain rfl := hplace.eq_append
  have hbranches : joined.frame.branches = alone.frame.branches := by
    obtain ⟨opening, hframe⟩ := h.frame
    rw [hframe]
  refine .of_run_eq (run_readStep_bar alone short) (run_readStep_bar joined (short ++ tail)) ?_
  rw [hbranches, h.frame.enclosure_eq]
  by_cases hfull : (alone.frame.enclosure matches .conditional) && !alone.frame.branches.isEmpty
  · rw [if_pos hfull, if_pos hfull]
    exact Carries.of_fails (fails_fail _) _ _ _ hplace
  · rw [if_neg hfull, if_neg hfull]
    refine (carriesAt_next?_cons hplace).bind ?_
    intro _ _ between between' _ _ hplace'
    exact Carries.pure ⟨_, _, rfl, rfl, h.nextBranch⟩ between between' hplace'

private theorem carriesAt_readStep_ordinary (h : Inside host alone joined) {symbol : PatternSymbol}
    (hclose : symbol ≠ plain ')') (hbar : symbol ≠ plain '|')
    (hcomment : ¬(alone.frame.mode.verbose ∧ symbol = plain '#')) (hopen : symbol ≠ plain '(')
    (hplace : Continues tail (symbol :: short) long) :
    CarriesAt tail (StepsAgree host) (readStep alone) (readStep joined)
      (symbol :: short) long := by
  obtain rfl := hplace.eq_append
  refine .of_run_eq (run_readStep_of_ordinary hclose hbar alone short)
    (run_readStep_of_ordinary hclose hbar joined (short ++ tail)) ?_
  refine (carriesAt_next?_cons hplace).bind ?_
  intro _ _ between between' _ _ hplace'
  refine (?_ : Carries tail (StepsAgree host) _ _) between between' hplace'
  cases symbol with
  | plain char =>
      have hnormal : ¬(alone.frame.mode.verbose && char = '#') := by simpa using hcomment
      have hchar : char ≠ '(' := by simpa using hopen
      refine (carries_readItem h _ _ hnormal hchar).bind fun alone' joined' h' => ?_
      exact .pure ⟨alone', joined', rfl, rfl, h'⟩
  | escaped char =>
      refine (carries_readEscape h char).bind fun alone' joined' h' => ?_
      exact .pure ⟨alone', joined', rfl, rfl, h'⟩
  | loneBackslash => exact .of_fails (fails_failAt _ _) _

@[simp] theorem run_readStep_comment {progress : Progress} (hverbose : progress.frame.mode.verbose)
    (unread : List PatternSymbol) :
    (readStep progress).run (plain '#' :: unread) =
      (do
        let _ ← next?
        let _ ← Reader.takeUntil '\n' ((← get).length + 1)
        return .inl progress : Reader _).run (plain '#' :: unread) := by
  rw [run_readStep_of_ordinary (by decide) (by decide)]
  simp [readItem, hverbose, isPatternBlank]

/-- What the longer pattern does at a step of the fragment.  A comment without a line end swallows
the rest of the fragment, with a group still open. -/
inductive StepAnswer (tail : List PatternSymbol) (host : List Frame) (joined : Progress)
    (long : List PatternSymbol) (alone' : Progress) (short' : List PatternSymbol) : Prop
  | carried {joined' : Progress} {long' : List PatternSymbol}
      (hrun : (readStep joined).run long = .ok (.inl joined', long'))
      (hinside : Inside host alone' joined') (hplace : Continues tail short' long')
  | swallowed (hend : short' = []) (houter : alone'.outer ≠ [])
  | refused (hhost : host ≠ []) (hflags : alone'.wholeFlags ≠ []) {unread : List PatternSymbol}
      (hrun : (readStep joined).run long = .error (.malformed .flagsNotAtStart unread 0))

theorem StepAnswer.of_carriesAt {alone' : Progress} {short' : List PatternSymbol}
    (h : CarriesAt tail (StepsAgree host) (readStep alone) (readStep joined) short long)
    (hrun : (readStep alone).run short = .ok (.inl alone', short')) :
    StepAnswer tail host joined long alone' short' := by
  obtain ⟨_, long', hjoined, ⟨_, joined', heq, rfl, h'⟩, hplace'⟩ := h _ _ hrun
  cases heq
  exact .carried hjoined h' hplace'

private theorem answer_readStep_comment (h : Inside host alone joined)
    (hhost : tail ≠ [] → host ≠ []) (hverbose : alone.frame.mode.verbose)
    (hplace : Continues tail (plain '#' :: short) long) {alone' : Progress}
    {short' : List PatternSymbol}
    (hrun : (readStep alone).run (plain '#' :: short) = .ok (.inl alone', short')) :
    StepAnswer tail host joined long alone' short' := by
  have hverbose' : joined.frame.mode.verbose := by rwa [h.frame.mode_eq]
  obtain rfl := hplace.eq_append
  rw [run_readStep_comment hverbose] at hrun
  obtain ⟨_, between, hnext, hrest⟩ := Reader.run_bind_eq_ok hrun
  obtain ⟨_, between', hnext', -, hplace'⟩ := carriesAt_next?_cons hplace _ _ hnext
  obtain ⟨_, _, hget, hrest⟩ := Reader.run_bind_eq_ok hrest
  cases hget
  obtain ⟨_, _, htake, hreturn⟩ := Reader.run_bind_eq_ok hrest
  cases hreturn
  rcases carriesAt_takeUntil hplace' (Nat.lt_succ_self _) (Nat.succ_le_succ hplace'.length_le) htake
    with ⟨_, long', htake', hstop⟩ | ⟨hend, htail⟩
  · refine .carried ?_ h hstop
    rw [List.cons_append, run_readStep_comment hverbose', ← List.cons_append,
      Reader.run_bind_of_eq_ok hnext', Reader.run_bind_of_eq_ok (Eq.refl _),
      Reader.run_bind_of_eq_ok htake']
    rfl
  · refine .swallowed hend fun houter => ?_
    have hmode := h.mode (hhost htail)
    rw [Progress.wholeMode, houter, List.map_nil, List.getLastD_nil] at hmode
    rw [hmode] at hverbose
    cases hverbose

@[simp] theorem run_readStep_open (progress : Progress) (unread : List PatternSymbol) :
    (readStep progress).run (plain '(' :: unread) =
      (do
        let _ ← next?
        return .inl (← openGroup progress (plain '(' :: unread)) : Reader _).run
        (plain '(' :: unread) := by
  rw [run_readStep_of_ordinary (by decide) (by decide)]
  simp [readItem, isPatternBlank]

private theorem answer_readStep_open (h : Inside host alone joined)
    (hplace : Continues tail (plain '(' :: short) long) {alone' : Progress}
    {short' : List PatternSymbol}
    (hrun : (readStep alone).run (plain '(' :: short) = .ok (.inl alone', short')) :
    StepAnswer tail host joined long alone' short' := by
  obtain rfl := hplace.eq_append
  rw [run_readStep_open] at hrun
  obtain ⟨_, between, hnext, hrest⟩ := Reader.run_bind_eq_ok hrun
  obtain ⟨_, between', hnext', -, hplace'⟩ := carriesAt_next?_cons hplace _ _ hnext
  obtain ⟨_, _, hgroup, hreturn⟩ := Reader.run_bind_eq_ok hrest
  cases hreturn
  have hstep : (readStep joined).run (plain '(' :: short ++ tail) =
      (do return .inl (← openGroup joined (plain '(' :: (short ++ tail))) : Reader _).run
        between' := by
    rw [List.cons_append, run_readStep_open, ← List.cons_append, Reader.run_bind_of_eq_ok hnext']
  rcases openGroup_cases h hplace' (plain '(' :: short) (plain '(' :: (short ++ tail)) hgroup with
    ⟨joined', long', hjoined, hinside, hstop⟩ | ⟨hhost, hflags, hjoined⟩
  · refine .carried ?_ hinside hstop
    rw [hstep, Reader.run_bind_of_eq_ok hjoined]
    rfl
  · have hrefused : (readStep joined).run (plain '(' :: short ++ tail) =
        .error (.malformed .flagsNotAtStart (plain '(' :: (short ++ tail)) 0) := by
      rw [hstep, StateT.run_bind, hjoined]
      rfl
    exact .refused hhost hflags hrefused

theorem answer_readStep (h : Inside host alone joined) (hhost : tail ≠ [] → host ≠ [])
    (hplace : Continues tail short long) {alone' : Progress} {short' : List PatternSymbol}
    (hrun : (readStep alone).run short = .ok (.inl alone', short')) :
    StepAnswer tail host joined long alone' short' := by
  cases short with
  | nil =>
      obtain ⟨-, houtcome, -⟩ := eq_of_run_readStep_nil hrun
      cases houtcome
  | cons symbol short =>
      by_cases hclose : symbol = plain ')'
      · subst hclose
        refine .of_carriesAt (carriesAt_readStep_close h ?_ hplace) hrun
        intro houter
        simp [houter] at hrun
      by_cases hbar : symbol = plain '|'
      · subst hbar
        exact .of_carriesAt (carriesAt_readStep_bar h hplace) hrun
      by_cases hcomment : alone.frame.mode.verbose ∧ symbol = plain '#'
      · obtain ⟨hverbose, rfl⟩ := hcomment
        exact answer_readStep_comment h hhost hverbose hplace hrun
      by_cases hopen : symbol = plain '('
      · subst hopen
        exact answer_readStep_open h hplace hrun
      · exact .of_carriesAt (carriesAt_readStep_ordinary h hclose hbar hcomment hopen hplace) hrun

private theorem exists_inl_of_run_readStep {progress : Progress} {symbol : PatternSymbol}
    (hclose : symbol ≠ plain ')') {unread rest : List PatternSymbol} {outcome : Progress ⊕ Progress}
    (h : (readStep progress).run (symbol :: unread) = .ok (outcome, rest)) :
    ∃ following, outcome = .inl following := by
  by_cases hbar : symbol = plain '|'
  · subst hbar
    rw [run_readStep_bar] at h
    by_cases hfull : (progress.frame.enclosure matches .conditional) &&
        !progress.frame.branches.isEmpty
    · rw [if_pos hfull] at h
      cases h
    · rw [if_neg hfull] at h
      obtain ⟨_, _, -, hreturn⟩ := Reader.run_bind_eq_ok h
      cases hreturn
      exact ⟨_, rfl⟩
  · rw [run_readStep_of_ordinary hclose hbar] at h
    obtain ⟨_, _, -, hitem⟩ := Reader.run_bind_eq_ok h
    cases symbol with
    | plain char =>
        obtain ⟨following, _, -, hreturn⟩ := Reader.run_bind_eq_ok hitem
        cases hreturn
        exact ⟨following, rfl⟩
    | escaped char =>
        obtain ⟨following, _, -, hreturn⟩ := Reader.run_bind_eq_ok hitem
        cases hreturn
        exact ⟨following, rfl⟩
    | loneBackslash => cases hitem

theorem readStep_eq_inr_nil {progress finished : Progress} {unread : List PatternSymbol}
    (h : (readStep progress).run unread = .ok (.inr finished, [])) :
    finished = progress ∧ unread = [] ∧ progress.outer = [] := by
  cases unread with
  | nil =>
      obtain ⟨houter, houtcome, -⟩ := eq_of_run_readStep_nil h
      cases houtcome
      exact ⟨rfl, rfl, houter⟩
  | cons symbol unread =>
      exfalso
      by_cases hclose : symbol = plain ')'
      · subst hclose
        cases houter : progress.outer with
        | nil => simp [houter] at h
        | cons parent outer =>
            rw [run_readStep_closing houter] at h
            obtain ⟨_, _, -, hreturn⟩ := Reader.run_bind_eq_ok h
            cases hreturn
      · obtain ⟨following, hfollowing⟩ := exists_inl_of_run_readStep hclose h
        cases hfollowing

end Steps

end ShaderTokens.Pattern
