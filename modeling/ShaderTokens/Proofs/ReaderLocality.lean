import ShaderTokens.Proofs.ReaderAgreement

/-!
# Readers that stay inside a fragment

Escapes, bracketed sets, quantifiers, flags and the openings of groups are read inside a longer
pattern just as they are read on their own.
-/

namespace ShaderTokens.Pattern

open PatternSymbol Reader

variable {tail : List PatternSymbol}

/-! ## Groups and escapes -/

theorem fails_failEscape {Result : Type} (cause : String → Malformation) (escape : List Char) :
    Fails (failEscape cause escape : Reader Result) :=
  fails_failBack _ _

theorem isLocal_checkLookbehind (groups : Groups) (limit : Option Nat) (group : Nat) :
    IsLocal tail (groups.checkLookbehind limit group) := by
  cases limit with
  | none => exact .pure rfl
  | some limit =>
      unfold Groups.checkLookbehind
      dsimp only
      split
      next => exact .of_fails (fails_fail _) _
      next =>
        split
        next => exact .of_fails (fails_fail _) _
        next => exact .pure rfl

theorem isLocal_reference (groups : Groups) (limit : Option Nat) (group extent : Nat) :
    IsLocal tail (groups.reference limit group extent) := by
  unfold Groups.reference
  split
  next => exact .of_fails (fails_failBack _ _) _
  next => exact (isLocal_checkLookbehind groups limit group).bind_eq fun _ => .pure rfl

theorem isLocal_readHexEscape (letter : Char) (count : Nat) :
    IsLocal tail (readHexEscape letter count) := by
  refine (isLocal_takeWhile (by decide) count).bind_eq fun digits => ?_
  dsimp only
  split
  next => exact .of_fails (fails_failEscape _ _) _
  next =>
    split
    next => exact .of_fails (fails_failEscape _ _) _
    next => exact .pure rfl

theorem isLocal_readNamedEscape : IsLocal tail readNamedEscape := by
  refine (isLocal_accept (by decide)).bind_eq fun isOpen => ?_
  split
  next =>
    refine (isLocal_readName _ _).bind_eq fun name => ?_
    split
    next => exact .pure rfl
    next => exact .of_fails (fails_failBack _ _) _
  next => exact .of_fails (fails_fail _) _

theorem isLocal_readOctalEscape (first : Char) : IsLocal tail (readOctalEscape first) := by
  refine (isLocal_takeWhile (by decide) 2).bind_eq fun digits => ?_
  dsimp only
  split
  next => exact .of_fails (fails_failEscape _ _) _
  next => exact .pure rfl

theorem isLocal_readCommonEscape (char : Char) : IsLocal tail (readCommonEscape char) := by
  unfold readCommonEscape
  split
  next => exact isLocal_readHexEscape _ _
  next =>
    split
    next => exact isLocal_readHexEscape _ _
    next =>
      split
      next => exact isLocal_readHexEscape _ _
      next =>
        split
        next => exact isLocal_readNamedEscape
        next =>
          split
          next => exact .of_fails (fails_failEscape _ _) _
          next => exact .pure rfl

theorem isLocal_readSetEscape (char : Char) : IsLocal tail (readSetEscape char) := by
  unfold readSetEscape
  split
  next => exact .pure rfl
  next => exact .pure rfl
  next =>
    split
    next => exact (isLocal_readOctalEscape char).bind_eq fun _ => .pure rfl
    next => exact (isLocal_readCommonEscape char).bind_eq fun _ => .pure rfl

theorem isLocal_readNumericEscape (groups : Groups) (limit : Option Nat) (first : Char) :
    IsLocal tail (readNumericEscape groups limit first) := by
  refine (isLocal_takeWhile (by decide) 1).bind_eq fun second => ?_
  dsimp only
  split
  case' isTrue => refine (isLocal_takeWhile (by decide) 1).bind_eq fun third => ?_
  case' isFalse => refine Carries.bind_eq (.pure rfl) fun third => ?_
  all_goals
    split
    next =>
      split
      next => exact .of_fails (fails_failEscape _ _) _
      next => exact .pure rfl
    next =>
      split
      next => exact (isLocal_reference _ _ _ _).bind_eq fun _ => .pure rfl
      next => exact .of_fails (fails_failBack _ _) _

/-! ## Bracketed sets -/

theorem isLocal_readSetMember (symbol : PatternSymbol) : IsLocal tail (readSetMember symbol) := by
  cases symbol with
  | plain char => exact .pure rfl
  | escaped char => exact isLocal_readSetEscape char
  | loneBackslash => exact .of_fails (fails_fail _) _

theorem isLocal_rangeItem (low high : PatternSymbol) (first last : CharEscape) :
    IsLocal tail (rangeItem low high first last) := by
  unfold rangeItem
  dsimp only
  split
  next =>
    split
    next => exact .of_fails (fails_failBack _ _) _
    next => exact .pure rfl
  next => exact .of_fails (fails_failBack _ _) _

theorem carries_readSet (opening opening' : List PatternSymbol) :
    Carries tail Eq (readSet opening) (readSet opening') := by
  have hstep : ∀ items,
      Carries tail Eq (readSetStep opening items) (readSetStep opening' items) := by
    intro items
    refine carries_next?_bind (fails_failAt _ _) fun low => ?_
    dsimp only
    split
    next => exact .pure rfl
    next =>
      refine (isLocal_readSetMember low).bind_eq fun first => ?_
      refine (isLocal_accept (by decide)).bind_eq fun hasHyphen => ?_
      split
      next =>
        refine carries_next?_bind (fails_failAt _ _) fun high => ?_
        dsimp only
        split
        next => exact .pure rfl
        next =>
          refine (isLocal_readSetMember high).bind_eq fun last => ?_
          exact (isLocal_rangeItem low high first last).bind_eq fun _ => .pure rfl
      next => exact .pure rfl
  refine (isLocal_accept (by decide)).bind_eq fun negated => ?_
  exact (carries_untilDone hstep []).bind_eq fun items => .pure rfl

/-! ## Quantifiers -/

theorem isLocal_readGreed : IsLocal tail readGreed := by
  refine (isLocal_accept (by decide)).bind_eq fun isLazy => ?_
  split
  next => exact .pure rfl
  next =>
    refine (isLocal_accept (by decide)).bind_eq fun isPossessive => ?_
    split
    next => exact .pure rfl
    next => exact .pure rfl

theorem isLocal_checkCount (digits : List Char) : IsLocal tail (checkCount digits) := by
  unfold checkCount
  split
  next => exact .of_fails (fails_throw _) _
  next =>
    split
    next => exact .of_fails (fails_throw _) _
    next => exact .pure rfl

/-- Braces that hold no counts are read again from where they started, in both readings. -/
theorem isLocal_readCounts : IsLocal tail readCounts := by
  refine fun short long hplace => carriesAt_get_bind ?_
  have hbrace : ('\x7d' : Char) ≠ ')' := by decide
  simp only [hplace.head?_eq_some_iff hbrace]
  have hset : Carries tail Eq (set short : Reader PUnit) (set long : Reader PUnit) := by
    rintro _ _ _ _ _ hfirst
    cases hfirst
    exact ⟨_, long, rfl, rfl, hplace⟩
  refine (?_ : Carries tail Eq _ _) short long hplace
  split
  next => exact .pure rfl
  next =>
    refine (isLocal_takeAll (by decide)).bind_eq fun lowDigits => ?_
    refine (isLocal_accept (by decide)).bind_eq fun hasComma => ?_
    split
    case' isTrue =>
      refine Carries.bind_eq ((isLocal_takeAll (by decide)).map some) fun highDigits => ?_
    case' isFalse => refine Carries.bind_eq (.pure rfl) fun highDigits => ?_
    all_goals
      refine (isLocal_accept (by decide)).bind_eq fun isClosed => ?_
      split
      next =>
        refine (isLocal_checkCount lowDigits).bind_eq fun _ => ?_
        refine (isLocal_checkCount _).bind_eq fun _ => ?_
        split
        next => exact .of_fails ((fails_failAt _ _).bind _) _
        next => exact .pure rfl
      next => exact hset.bind_eq fun _ => .pure rfl

theorem isLocal_readQuantifier (char : Char) : IsLocal tail (readQuantifier char) := by
  unfold readQuantifier
  split
  next => exact .pure rfl
  next => exact .pure rfl
  next => exact .pure rfl
  next => exact isLocal_readCounts
  next => exact .pure rfl

/-! ## Flags -/

theorem isLocal_flagOrFail (symbol : PatternSymbol) (missing : Malformation) :
    IsLocal tail (flagOrFail symbol missing) := by
  unfold flagOrFail
  split
  next =>
    split
    next => exact .pure rfl
    next => exact .of_fails (fails_failBack _ _) _
  next => exact .of_fails (fails_failBack _ _) _

theorem isLocal_checkTurnedOn (flags : List Flag) (flag : Flag) :
    IsLocal tail (checkTurnedOn flags flag) := by
  unfold checkTurnedOn
  split
  next => exact .of_fails (fails_fail _) _
  next =>
    split
    next => exact .of_fails (fails_fail _) _
    next => exact .pure rfl

theorem isLocal_checkTurnedOff (flags : List Flag) (flag : Flag) :
    IsLocal tail (checkTurnedOff flags flag) := by
  unfold checkTurnedOff
  split
  next => exact .of_fails (fails_fail _) _
  next => exact .pure rfl

theorem isLocal_readTurnedOnStep (flags : List Flag) : IsLocal tail (readTurnedOnStep flags) := by
  refine carries_next?_bind (fails_fail _) fun symbol => ?_
  dsimp only
  split
  next => exact .pure rfl
  next =>
    split
    next => exact .pure rfl
    next =>
      split
      next => exact .pure rfl
      next =>
        refine (isLocal_flagOrFail _ _).bind_eq fun flag => ?_
        exact (isLocal_checkTurnedOn flags flag).bind_eq fun _ => .pure rfl

theorem isLocal_readTurnedOffStep (flags : List Flag) :
    IsLocal tail (readTurnedOffStep flags) := by
  refine carries_next?_bind (fails_fail _) fun symbol => ?_
  dsimp only
  split
  next => exact .pure rfl
  next =>
    refine (isLocal_flagOrFail _ _).bind_eq fun flag => ?_
    exact (isLocal_checkTurnedOff flags flag).bind_eq fun _ => .pure rfl

theorem isLocal_readTurnedOff : IsLocal tail readTurnedOff := by
  refine carries_next?_bind (fails_fail _) fun symbol => ?_
  refine (isLocal_flagOrFail _ _).bind_eq fun flag => ?_
  refine (isLocal_checkTurnedOff [] flag).bind_eq fun flags => ?_
  exact carries_untilDone isLocal_readTurnedOffStep flags

theorem isLocal_readFlags (first : Char) : IsLocal tail (readFlags first) := by
  unfold readFlags
  dsimp only
  split
  case' h_1 flag _ =>
    refine (isLocal_checkTurnedOn [] flag).bind_eq fun flags => ?_
    refine (carries_untilDone isLocal_readTurnedOnStep flags).bind_eq fun turnedOn => ?_
  case' h_2 => refine Carries.bind_eq (.pure rfl) fun turnedOn => ?_
  all_goals
    split
    next => exact .pure rfl
    next =>
      split
      next => exact .of_fails ((fails_failBack _ _).bind _) _
      next =>
        split
        case' isTrue => refine isLocal_readTurnedOff.bind_eq fun turnedOff => ?_
        case' isFalse => refine Carries.bind_eq (.pure rfl) fun turnedOff => ?_
        all_goals
          split
          next => exact .of_fails ((fails_failBack _ _).bind _) _
          next =>
            split
            next => exact .of_fails ((fails_failBack _ _).bind _) _
            next => exact .pure rfl

theorem yields_checkTurnedOn (flags : List Flag) (flag : Flag) :
    Yields (· ≠ []) (checkTurnedOn flags flag) := by
  unfold checkTurnedOn
  split
  next => exact .of_fails (fails_fail _)
  next =>
    split
    next => exact .of_fails (fails_fail _)
    next => exact .pure (by simp)

theorem yields_readTurnedOnStep {flags : List Flag} (hflags : flags ≠ []) :
    Yields (Sum.elim (· ≠ []) fun found => found.2 = ')' → found.1 ≠ [])
      (readTurnedOnStep flags) := by
  refine Yields.bind_any fun symbol? => ?_
  cases symbol? with
  | none => exact .of_fails (fails_fail _)
  | some symbol =>
      dsimp only
      split
      next => exact .pure fun _ => hflags
      next =>
        split
        next => exact .pure fun _ => hflags
        next =>
          split
          next => exact .pure fun _ => hflags
          next =>
            refine Yields.bind_any fun flag => ?_
            exact (yields_checkTurnedOn flags flag).bind fun _ hother => .pure hother

theorem yields_readFlags {first : Char} (hfirst : first ≠ ')') :
    Yields (fun change => ∀ flags, change = .whole flags → flags ≠ []) (readFlags first) := by
  unfold readFlags
  dsimp only
  split
  case' h_1 flag _ =>
    refine (yields_checkTurnedOn [] flag).bind fun flags hflags => ?_
    refine (yields_untilDone (fun _ => yields_readTurnedOnStep) hflags).bind
      fun turnedOn hturnedOn => ?_
  case' h_2 =>
    have hnone : Yields (fun found => found.2 = ')' → found.1 ≠ [])
        (pure ([], first) : Reader (List Flag × Char)) := .pure fun heq => absurd heq hfirst
    refine hnone.bind fun turnedOn hturnedOn => ?_
  all_goals
    split
    next hclose =>
      refine .pure ?_
      rintro _ ⟨⟩
      exact hturnedOn hclose
    next =>
      split
      next => exact .of_fails ((fails_failBack _ _).bind _)
      next =>
        split
        case' isTrue => refine Yields.bind_any fun turnedOff => ?_
        case' isFalse => refine Yields.bind_any fun turnedOff => ?_
        all_goals
          split
          next => exact .of_fails ((fails_failBack _ _).bind _)
          next =>
            split
            next => exact .of_fails ((fails_failBack _ _).bind _)
            next => exact .pure (by simp)

/-! ## Openings -/

theorem isLocal_readGroupName {close : Char} : IsLocal tail (readGroupName close) := by
  refine (isLocal_readName _ _).bind_eq fun name => ?_
  split
  next => exact .pure rfl
  next => exact .of_fails (fails_failBack _ _) _

theorem isLocal_readNamedReference (groups : Groups) (limit : Option Nat) :
    IsLocal tail (readNamedReference groups limit) := by
  refine isLocal_readGroupName.bind_eq fun name => ?_
  split
  next => exact .of_fails (fails_failBack _ _) _
  next => exact isLocal_reference _ _ _ _

def Opening.isCapture : Opening → Bool
  | .encloses (.capture _) _ _ => true
  | _ => false

/-- What two readings of an opening yield: the same, up to what was unread at a condition, no new
groups unless it captures, and at least one flag for the whole pattern if any. -/
inductive OpeningsAgree (groups : Groups) : Opening × Groups → Opening × Groups → Prop
  | condition (group : Nat) (unread unread' : List PatternSymbol) :
      OpeningsAgree groups (.encloseIf group unread, groups) (.encloseIf group unread', groups)
  | capture (group : Nat) (opened : Groups) (hopened : opened.opened = groups.opened + 1) :
      OpeningsAgree groups (.encloses (.capture group) [] [], opened)
        (.encloses (.capture group) [] [], opened)
  | other (opening : Opening) (hcapture : opening.isCapture = false)
      (hflags : opening ≠ .wholeFlags []) :
      OpeningsAgree groups (opening, groups) (opening, groups)

theorem carries_readCondition (groups : Groups) (limit : Option Nat) :
    Carries tail (fun found found' => ∃ group unread unread',
        found = .encloseIf group unread ∧ found' = .encloseIf group unread')
      (readCondition groups limit) (readCondition groups limit) := by
  refine Carries.get_bind fun short long _ => ?_
  have hgroup : ∀ group : Nat,
      Carries tail (fun found found' => ∃ group unread unread',
          found = Opening.encloseIf group unread ∧ found' = Opening.encloseIf group unread')
        (do groups.checkLookbehind limit group; return .encloseIf group short)
        (do groups.checkLookbehind limit group; return .encloseIf group long) :=
    fun group => (isLocal_checkLookbehind groups limit group).bind_eq fun _ =>
      .pure ⟨group, short, long, rfl, rfl⟩
  refine (isLocal_readName _ _).bind_eq fun name => ?_
  dsimp only
  split
  next =>
    split
    next => exact .of_fails ((fails_failBack _ _).bind _) _
    next group _ => exact hgroup group
  next =>
    split
    next => exact .of_fails ((fails_failBack _ _).bind _) _
    next group _ _ =>
      split
      next => exact .of_fails ((fails_failBack _ _).bind _) _
      next => exact hgroup group
    next => exact .of_fails ((fails_failBack _ _).bind _) _

theorem carries_readComment (opening opening' : List PatternSymbol) :
    Carries tail (fun found found' => found = .comment ∧ found' = .comment)
      (readComment opening) (readComment opening') := by
  refine Carries.get_bind fun short long hlength => ?_
  refine carries_takeUntil_bind ')' (Nat.succ_le_succ hlength) (fails_failAt _ _) fun name => ?_
  exact .pure ⟨rfl, rfl⟩

theorem carries_readLookbehind :
    Carries tail
      (fun found found' => found = found' ∧ found.isCapture = false ∧ found ≠ .wholeFlags [])
      readLookbehind readLookbehind := by
  refine carries_next?_bind (fails_fail _) fun symbol => ?_
  dsimp only
  split
  next => exact .pure ⟨rfl, rfl, nofun⟩
  next =>
    split
    next => exact .pure ⟨rfl, rfl, nofun⟩
    next => exact .of_fails (fails_failBack _ _) _

theorem carries_readNamed (groups : Groups) (limit : Option Nat) :
    Carries tail (OpeningsAgree groups) (readNamed groups limit) (readNamed groups limit) := by
  refine (isLocal_accept (by decide)).bind_eq fun isGroup => ?_
  split
  next =>
    refine isLocal_readGroupName.bind_eq fun name => ?_
    split
    next => exact .of_fails (fails_failBack _ _) _
    next => exact .pure (.capture _ _ rfl)
  next =>
    refine (isLocal_accept (by decide)).bind_eq fun isReference => ?_
    split
    next =>
      refine (isLocal_readNamedReference groups limit).bind_eq fun _ => ?_
      exact .pure (.other _ rfl nofun)
    next =>
      refine carries_next?_bind (fails_fail _) fun symbol => ?_
      exact .of_fails (fails_failBack _ _) _

theorem carries_readExtension (opening opening' : List PatternSymbol) (groups : Groups)
    (limit : Option Nat) :
    Carries tail (OpeningsAgree groups) (readExtension opening groups limit)
      (readExtension opening' groups limit) := by
  have hfirst : ∀ {char : Char}, (char = '-' || (Flag.ofChar? char).isSome) = true →
      char ≠ ')' := by
    rintro char hflag rfl
    simp [Flag.ofChar?] at hflag
  refine carries_next?_bind (fails_fail _) fun symbol => ?_
  dsimp only
  split
  next hnone => cases hnone
  next => exact carries_readNamed groups limit
  next => exact .pure (.other _ rfl nofun)
  next =>
    refine (carries_readComment opening opening').bind ?_
    rintro _ _ ⟨rfl, rfl⟩
    exact .pure (.other _ rfl nofun)
  next => exact .pure (.other _ rfl nofun)
  next => exact .pure (.other _ rfl nofun)
  next =>
    refine carries_readLookbehind.bind ?_
    rintro found _ ⟨rfl, hcapture, hflags⟩
    exact .pure (.other found hcapture hflags)
  next => exact .pure (.other _ rfl nofun)
  next =>
    refine (carries_readCondition groups limit).bind ?_
    rintro _ _ ⟨group, unread, unread', rfl, rfl⟩
    exact .pure (.condition group unread unread')
  next =>
    split
    next =>
      split
      next hflag =>
        refine ((isLocal_readFlags _).and_yields (yields_readFlags (hfirst hflag))).bind ?_
        rintro change _ ⟨rfl, hwhole⟩
        cases change with
        | whole flags =>
            refine .pure (.other _ rfl ?_)
            rintro ⟨⟩
            exact hwhole _ rfl rfl
        | group turnedOn turnedOff => exact .pure (.other _ rfl nofun)
      next => exact .of_fails (fails_failBack _ _) _
    next => exact .of_fails (fails_failBack _ _) _

theorem carries_readOpening (opening opening' : List PatternSymbol) (groups : Groups)
    (limit : Option Nat) :
    Carries tail (OpeningsAgree groups) (readOpening opening groups limit)
      (readOpening opening' groups limit) := by
  refine (isLocal_accept (by decide)).bind_eq fun isExtension => ?_
  split
  next => exact carries_readExtension opening opening' groups limit
  next => exact .pure (.capture _ _ rfl)

end ShaderTokens.Pattern
