import ShaderTokens.Pattern.Reader.Opening
import ShaderTokens.Pattern.Reader.Quantifier
import ShaderTokens.Pattern.Reader.Set

/-!
# Reading a fragment inside a longer pattern

The unread symbols of a fragment are compared with those of a pattern that goes on with a closing
parenthesis where the fragment ends.  A reader that succeeds on the fragment alone never looks
beyond its end, so it succeeds inside the pattern too.
-/

namespace ShaderTokens.Pattern

open PatternSymbol

/-! ## Places -/

def EndsInBackslash (unread : List PatternSymbol) : Prop :=
  ∃ front, front ≠ [] ∧ unread = front ++ [loneBackslash]

/-- The same place in a fragment and in a longer pattern.  When nothing follows the fragment, it is
one that cannot be read to its end, and the two are one. -/
def Continues (tail short long : List PatternSymbol) : Prop :=
  long = short ++ tail ∧
    (tail.head? = some (plain ')') ∨ tail = [] ∧ EndsInBackslash short)

namespace Continues

variable {tail short long : List PatternSymbol}

theorem eq_append (h : Continues tail short long) : long = short ++ tail :=
  h.1

theorem length_le (h : Continues tail short long) : short.length ≤ long.length := by
  rw [h.eq_append, List.length_append]
  exact Nat.le_add_right _ _

theorem head?_of_nil (h : Continues tail [] long) : long.head? = some (plain ')') := by
  obtain ⟨rfl, hparenthesis | ⟨-, front, hfront, hunread⟩⟩ := h
  · simpa using hparenthesis
  · simp at hunread

theorem head?_eq_some_iff (h : Continues tail short long) {char : Char} (hchar : char ≠ ')') :
    long.head? = some (plain char) ↔ short.head? = some (plain char) := by
  cases short with
  | nil => simpa [h.head?_of_nil] using hchar.symm
  | cons symbol short => rw [h.eq_append, List.cons_append, List.head?_cons, List.head?_cons]

theorem ne_backslash {symbol : PatternSymbol} (h : Continues tail (symbol :: short) long)
    (hbackslash : short ≠ [loneBackslash]) : short ++ tail ≠ [loneBackslash] := by
  intro heq
  rcases List.append_eq_singleton_iff.mp heq with ⟨rfl, rfl⟩ | ⟨rfl, -⟩
  · rcases h.2 with hparenthesis | ⟨hnil, -⟩
    · cases hparenthesis
    · cases hnil
  · exact hbackslash rfl

theorem of_cons {symbol : PatternSymbol} (h : Continues tail (symbol :: short) long)
    (hbackslash : short ≠ [loneBackslash]) :
    ∃ others, long = symbol :: others ∧ Continues tail short others := by
  obtain ⟨rfl, hparenthesis | ⟨rfl, front, hfront, hunread⟩⟩ := h
  · exact ⟨short ++ tail, rfl, rfl, .inl hparenthesis⟩
  · refine ⟨short ++ [], rfl, rfl, .inr ⟨rfl, ?_⟩⟩
    obtain ⟨first, front, rfl⟩ := List.exists_cons_of_ne_nil hfront
    obtain ⟨-, rfl⟩ := List.cons.inj hunread
    refine ⟨front, ?_, rfl⟩
    rintro rfl
    exact hbackslash rfl

end Continues

/-! ## Carrying over -/

/-- If the first reader succeeds, the second does so too from the same place, their results are
related and they stop at the same place. -/
def CarriesAt {First Second : Type} (tail : List PatternSymbol) (rel : First → Second → Prop)
    (first : Reader First) (second : Reader Second) (short long : List PatternSymbol) : Prop :=
  ∀ value short', first.run short = .ok (value, short') →
    ∃ value' long', second.run long = .ok (value', long') ∧ rel value value' ∧
      Continues tail short' long'

def Carries {First Second : Type} (tail : List PatternSymbol) (rel : First → Second → Prop)
    (first : Reader First) (second : Reader Second) : Prop :=
  ∀ short long, Continues tail short long → CarriesAt tail rel first second short long

abbrev IsLocal {Result : Type} (tail : List PatternSymbol) (reader : Reader Result) : Prop :=
  Carries tail Eq reader reader

def Fails {Result : Type} (reader : Reader Result) : Prop :=
  ∀ unread, ∃ fault, reader.run unread = .error fault

namespace Reader

theorem run_bind_eq_ok {First Second : Type} {reader : Reader First}
    {next : First → Reader Second} {unread unread' : List PatternSymbol} {result : Second}
    (h : (reader >>= next).run unread = .ok (result, unread')) :
    ∃ value between, reader.run unread = .ok (value, between) ∧
      (next value).run between = .ok (result, unread') := by
  rw [StateT.run_bind] at h
  cases hreader : reader.run unread with
  | error fault =>
      rw [hreader] at h
      cases h
  | ok found =>
      rw [hreader] at h
      exact ⟨found.1, found.2, rfl, h⟩

theorem run_bind_of_eq_ok {First Second : Type} {reader : Reader First}
    {next : First → Reader Second} {unread rest : List PatternSymbol} {first : First}
    (h : reader.run unread = .ok (first, rest)) :
    (reader >>= next).run unread = (next first).run rest := by
  rw [StateT.run_bind, h]
  rfl

end Reader

section Failing

variable {Result : Type}

theorem fails_throw (fault : Fault) : Fails (throw fault : Reader Result) :=
  fun _ => ⟨fault, rfl⟩

theorem fails_failAt (cause : Malformation) (unread : List PatternSymbol) :
    Fails (Reader.failAt cause unread : Reader Result) :=
  fails_throw _

theorem fails_failBack (cause : Malformation) (back : Nat) :
    Fails (Reader.failBack cause back : Reader Result) :=
  fun unread => ⟨.malformed cause unread back, rfl⟩

theorem fails_fail (cause : Malformation) : Fails (Reader.fail cause : Reader Result) :=
  fails_failBack cause 0

theorem Fails.bind {First : Type} {reader : Reader First} (h : Fails reader)
    (next : First → Reader Result) : Fails (reader >>= next) := by
  intro unread
  obtain ⟨fault, hfault⟩ := h unread
  exact ⟨fault, by rw [StateT.run_bind, hfault]; rfl⟩

end Failing

def Yields {Result : Type} (property : Result → Prop) (reader : Reader Result) : Prop :=
  ∀ unread result unread', reader.run unread = .ok (result, unread') → property result

namespace Yields

variable {First Result : Type} {property : Result → Prop}

theorem pure {result : Result} (h : property result) : Yields property (pure result) := by
  intro unread _ _ hrun
  cases hrun
  exact h

theorem of_fails {reader : Reader Result} (h : Fails reader) : Yields property reader := by
  intro unread result unread' hrun
  obtain ⟨fault, hfault⟩ := h unread
  rw [hfault] at hrun
  cases hrun

theorem bind {found : First → Prop} {reader : Reader First} {next : First → Reader Result}
    (h : Yields found reader) (hnext : ∀ first, found first → Yields property (next first)) :
    Yields property (reader >>= next) := by
  intro unread result unread' hrun
  obtain ⟨first, between, hfirst, hrest⟩ := Reader.run_bind_eq_ok hrun
  exact hnext first (h _ _ _ hfirst) _ _ _ hrest

theorem bind_any {reader : Reader First} {next : First → Reader Result}
    (hnext : ∀ first, Yields property (next first)) : Yields property (reader >>= next) :=
  bind (fun _ _ _ _ => trivial : Yields (fun _ => True) reader) fun first _ => hnext first

theorem ite {condition : Prop} [Decidable condition] {first second : Reader Result}
    (hfirst : Yields property first) (hsecond : Yields property second) :
    Yields property (if condition then first else second) := by
  split
  next => exact hfirst
  next => exact hsecond

end Yields

section YieldingLoops

variable {State Result : Type} {step : State → Reader (State ⊕ Result)}
  {invariant : State → Prop} {property : Result → Prop}

theorem yields_iterate
    (hstep : ∀ state, invariant state → Yields (Sum.elim invariant property) (step state))
    (stalled : Fault) (limit : Nat) {state : State} (hstate : invariant state) :
    Yields property (Reading.iterate stalled step limit state) := by
  induction limit generalizing state with
  | zero => exact .of_fails (fails_throw stalled)
  | succ limit ih =>
      refine (hstep state hstate).bind fun outcome houtcome => ?_
      cases outcome with
      | inl following => exact ih houtcome
      | inr result => exact .pure houtcome

theorem yields_untilDone
    (hstep : ∀ state, invariant state → Yields (Sum.elim invariant property) (step state))
    {state : State} (hstate : invariant state) :
    Yields property (Reader.untilDone step state) :=
  Yields.bind_any fun _ => yields_iterate hstep _ _ hstate

end YieldingLoops

theorem CarriesAt.of_run_eq {tail short long : List PatternSymbol} {First Second : Type}
    {rel : First → Second → Prop} {first first' : Reader First} {second second' : Reader Second}
    (hfirst : first.run short = first'.run short) (hsecond : second.run long = second'.run long)
    (h : CarriesAt tail rel first' second' short long) :
    CarriesAt tail rel first second short long := by
  rwa [CarriesAt, hfirst, hsecond]

theorem CarriesAt.bind {tail short long : List PatternSymbol} {First Second First' Second' : Type}
    {rel : First → First' → Prop} {rel' : Second → Second' → Prop} {first : Reader First}
    {second : Reader First'} {next : First → Reader Second} {next' : First' → Reader Second'}
    (h : CarriesAt tail rel first second short long)
    (hnext : ∀ value value' between between', first.run short = .ok (value, between) →
      rel value value' → Continues tail between between' →
        CarriesAt tail rel' (next value) (next' value') between between') :
    CarriesAt tail rel' (first >>= next) (second >>= next') short long := by
  intro result short' hfirst
  obtain ⟨value, between, hrun, hrest⟩ := Reader.run_bind_eq_ok hfirst
  obtain ⟨value', between', hrun', hvalue, hplace⟩ := h _ _ hrun
  rw [Reader.run_bind_of_eq_ok hrun']
  exact hnext value value' between between' hrun hvalue hplace _ _ hrest

namespace Carries

variable {tail : List PatternSymbol} {First Second First' Second' : Type}
  {rel : First → First' → Prop} {rel' : Second → Second' → Prop}

theorem pure {value : First} {value' : First'} (h : rel value value') :
    Carries tail rel (pure value) (pure value') := by
  rintro short long hplace _ _ hfirst
  cases hfirst
  exact ⟨value', long, rfl, h, hplace⟩

theorem of_fails {first : Reader First} (h : Fails first) (second : Reader First') :
    Carries tail rel first second := by
  intro short long hplace value short' hfirst
  obtain ⟨fault, hfault⟩ := h short
  rw [hfault] at hfirst
  cases hfirst

theorem bind {first : Reader First} {second : Reader First'} {next : First → Reader Second}
    {next' : First' → Reader Second'} (h : Carries tail rel first second)
    (hnext : ∀ value value', rel value value' → Carries tail rel' (next value) (next' value')) :
    Carries tail rel' (first >>= next) (second >>= next') :=
  fun short long hplace => (h short long hplace).bind fun value value' between between' _ hvalue =>
    hnext value value' hvalue between between'

theorem bind_eq {first : Reader First} {second : Reader First} {next : First → Reader Second}
    {next' : First → Reader Second'} (h : Carries tail Eq first second)
    (hnext : ∀ value, Carries tail rel' (next value) (next' value)) :
    Carries tail rel' (first >>= next) (second >>= next') := by
  refine h.bind ?_
  rintro value _ rfl
  exact hnext value

theorem map {first second : Reader First} (h : Carries tail Eq first second)
    (transform : First → Second) :
    Carries tail Eq (transform <$> first) (transform <$> second) := by
  rw [← bind_pure_comp, ← bind_pure_comp]
  exact h.bind_eq fun value => .pure rfl

theorem and_yields {first : Reader First} {second : Reader First'} {property : First → Prop}
    (h : Carries tail rel first second) (hyields : Yields property first) :
    Carries tail (fun value value' => rel value value' ∧ property value) first second := by
  intro short long hplace value short' hfirst
  obtain ⟨value', long', hsecond, hvalue, hplace'⟩ := h short long hplace value short' hfirst
  exact ⟨value', long', hsecond, ⟨hvalue, hyields _ _ _ hfirst⟩, hplace'⟩

theorem get_bind {next : List PatternSymbol → Reader Second}
    {next' : List PatternSymbol → Reader Second'}
    (h : ∀ short long, short.length ≤ long.length → Carries tail rel' (next short) (next' long)) :
    Carries tail rel' (get >>= next) (get >>= next') :=
  fun short long hplace => h short long hplace.length_le short long hplace

end Carries

/-! ## Single symbols -/

section Symbols

variable {tail : List PatternSymbol}

@[simp] theorem run_next?_cons (symbol : PatternSymbol) (unread : List PatternSymbol) :
    Reader.next?.run (symbol :: unread) =
      if unread = [loneBackslash] then
        .error (.malformed .loneBackslash unread 0)
      else .ok (some symbol, unread) := by
  rw [Reader.next?, StateT.run_bind]
  change (if _ then _ else _ : Reader _).run _ = _
  split <;> rfl

theorem run_next?_eq_ok {symbol : PatternSymbol} {unread unread' : List PatternSymbol}
    {symbol? : Option PatternSymbol}
    (h : Reader.next?.run (symbol :: unread) = .ok (symbol?, unread')) :
    unread ≠ [loneBackslash] ∧ symbol? = some symbol ∧ unread' = unread := by
  rw [run_next?_cons] at h
  split at h
  next => cases h
  next hbackslash =>
    cases h
    exact ⟨hbackslash, rfl, rfl⟩

theorem carriesAt_next?_cons {symbol : PatternSymbol} {short long : List PatternSymbol}
    (hplace : Continues tail (symbol :: short) long) :
    CarriesAt tail (fun found found' => found = some symbol ∧ found' = some symbol)
      Reader.next? Reader.next? (symbol :: short) long := by
  intro found short' hfirst
  obtain ⟨hbackslash, rfl, rfl⟩ := run_next?_eq_ok hfirst
  obtain ⟨others, rfl, hplace'⟩ := hplace.of_cons hbackslash
  refine ⟨some symbol, others, ?_, ⟨rfl, rfl⟩, hplace'⟩
  rw [run_next?_cons, if_neg (hplace'.eq_append ▸ hplace.ne_backslash hbackslash)]

theorem carries_next?_bind {First Second : Type} {rel : First → Second → Prop}
    {next : Option PatternSymbol → Reader First} {next' : Option PatternSymbol → Reader Second}
    (hnone : Fails (next none))
    (hsome : ∀ symbol, Carries tail rel (next (some symbol)) (next' (some symbol))) :
    Carries tail rel (Reader.next? >>= next) (Reader.next? >>= next') := by
  intro short long hplace
  cases short with
  | nil =>
      intro result short' hfirst
      obtain ⟨fault, hfault⟩ := hnone []
      change (next none).run [] = _ at hfirst
      rw [hfault] at hfirst
      cases hfirst
  | cons symbol short =>
      refine (carriesAt_next?_cons hplace).bind ?_
      rintro _ _ between between' - ⟨rfl, rfl⟩ hplace'
      exact hsome symbol between between' hplace'

theorem carriesAt_get_bind {First Second : Type} {rel : First → Second → Prop}
    {next : List PatternSymbol → Reader First} {next' : List PatternSymbol → Reader Second}
    {short long : List PatternSymbol}
    (h : CarriesAt tail rel (next short) (next' long) short long) :
    CarriesAt tail rel (get >>= next) (get >>= next') short long :=
  h

theorem carriesAt_peek?_bind {First Second : Type} {rel : First → Second → Prop}
    {next : Option PatternSymbol → Reader First} {next' : Option PatternSymbol → Reader Second}
    {short long : List PatternSymbol}
    (h : CarriesAt tail rel (next short.head?) (next' long.head?) short long) :
    CarriesAt tail rel (Reader.peek? >>= next) (Reader.peek? >>= next') short long :=
  h

theorem isLocal_accept {char : Char} (hchar : char ≠ ')') :
    IsLocal tail (Reader.accept char) := by
  refine fun short long hplace => carriesAt_peek?_bind ?_
  simp only [hplace.head?_eq_some_iff hchar]
  cases short with
  | nil => exact Carries.pure rfl [] long hplace
  | cons symbol short =>
      split
      next =>
        refine (carriesAt_next?_cons hplace).bind ?_
        intro _ _ between between' _ _ hplace'
        exact Carries.pure rfl between between' hplace'
      next => exact Carries.pure rfl _ long hplace

end Symbols

/-! ## Runs of symbols -/

section Runs

variable {tail : List PatternSymbol} {isMember : Char → Bool}

theorem run_takeWhile_of_end (hmember : isMember ')' = false) {unread : List PatternSymbol}
    (hend : unread = [] ∨ unread.head? = some (plain ')')) (limit : Nat) :
    (Reader.takeWhile isMember limit).run unread = (pure [] : Reader (List Char)).run unread := by
  cases limit with
  | zero => rfl
  | succ limit =>
      rcases hend with rfl | hhead
      · rfl
      · obtain ⟨others, rfl⟩ := List.head?_eq_some_iff.mp hhead
        change StateT.run (if isMember ')' then _ else _) _ = _
        rw [hmember]
        rfl

/-- The limits are the same, or neither is reached within the fragment. -/
private theorem carriesAt_takeWhile (hmember : isMember ')' = false) {limit limit' : Nat}
    {short long : List PatternSymbol} (hplace : Continues tail short long)
    (hlimit : limit = limit' ∨ short.length ≤ limit ∧ short.length ≤ limit') :
    CarriesAt tail Eq (Reader.takeWhile isMember limit) (Reader.takeWhile isMember limit')
      short long := by
  induction short generalizing limit limit' long with
  | nil =>
      refine .of_run_eq (run_takeWhile_of_end hmember (.inl rfl) limit)
        (run_takeWhile_of_end hmember (.inr hplace.head?_of_nil) limit') ?_
      exact Carries.pure rfl [] long hplace
  | cons symbol short ih =>
      cases limit with
      | zero =>
          obtain rfl : limit' = 0 := by
            rcases hlimit with h | h
            · exact h.symm
            · simp at h
          exact Carries.pure rfl _ long hplace
      | succ limit =>
          cases limit' with
          | zero => simp at hlimit
          | succ limit' =>
              obtain rfl := hplace.eq_append
              refine carriesAt_peek?_bind ?_
              cases symbol with
              | plain char =>
                  dsimp only [List.head?_cons, List.cons_append]
                  split
                  next =>
                    refine (carriesAt_next?_cons hplace).bind ?_
                    intro _ _ between between' hrun _ hplace'
                    obtain ⟨-, -, rfl⟩ := run_next?_eq_ok hrun
                    refine (ih hplace' ?_).bind ?_
                    · simpa using hlimit
                    · rintro others _ between between' - rfl hplace'
                      exact Carries.pure rfl between between' hplace'
                  next => exact Carries.pure rfl _ _ hplace
              | escaped char => exact Carries.pure rfl _ _ hplace
              | loneBackslash => exact Carries.pure rfl _ _ hplace

theorem isLocal_takeWhile (hmember : isMember ')' = false) (limit : Nat) :
    IsLocal tail (Reader.takeWhile isMember limit) :=
  fun _ _ hplace => carriesAt_takeWhile hmember hplace (.inl rfl)

theorem isLocal_takeAll (hmember : isMember ')' = false) :
    IsLocal tail (Reader.takeAll isMember) := by
  intro short long hplace
  exact carriesAt_takeWhile hmember hplace (.inr ⟨Nat.le_refl _, hplace.length_le⟩)

/-- A reader that faults when the closing character is missing never looks beyond it. -/
theorem carries_takeUntil_bind {First Second : Type} {rel : First → Second → Prop} (close : Char)
    {limit limit' : Nat} (hlimit : limit ≤ limit') {next : Option (List Char) → Reader First}
    {next' : Option (List Char) → Reader Second} (hnone : Fails (next none))
    (hsome : ∀ name, Carries tail rel (next (some name)) (next' (some name))) :
    Carries tail rel (Reader.takeUntil close limit >>= next)
      (Reader.takeUntil close limit' >>= next') := by
  induction limit generalizing limit' next next' with
  | zero => exact .of_fails (fun unread => hnone unread) _
  | succ limit ih =>
      obtain ⟨limit', rfl⟩ := Nat.exists_eq_add_one_of_ne_zero (Nat.ne_zero_of_lt hlimit)
      rw [Reader.takeUntil, Reader.takeUntil, bind_assoc, bind_assoc]
      refine carries_next?_bind (fun unread => hnone unread) fun symbol => ?_
      dsimp only
      split
      next => exact hsome []
      next =>
        rw [bind_assoc, bind_assoc]
        exact ih (Nat.le_of_succ_le_succ hlimit) (fun unread => hnone unread)
          fun name => hsome (symbol.text ++ name)

theorem carriesAt_takeUntil {close : Char} {limit limit' : Nat} {short long : List PatternSymbol}
    (hplace : Continues tail short long) (hlimit : short.length < limit) (hle : limit ≤ limit')
    {found : Option (List Char)} {short' : List PatternSymbol}
    (hrun : (Reader.takeUntil close limit).run short = .ok (found, short')) :
    (∃ found' long', (Reader.takeUntil close limit').run long = .ok (found', long') ∧
      Continues tail short' long') ∨ short' = [] ∧ tail ≠ [] := by
  induction short generalizing limit limit' long found with
  | nil =>
      obtain ⟨count, rfl⟩ := Nat.exists_eq_add_one_of_ne_zero (Nat.ne_of_gt hlimit)
      cases hrun
      refine .inr ⟨rfl, ?_⟩
      rintro rfl
      have hlong := hplace.head?_of_nil
      rw [hplace.eq_append] at hlong
      cases hlong
  | cons symbol short ih =>
      obtain ⟨count, rfl⟩ := Nat.exists_eq_add_one_of_ne_zero (Nat.ne_zero_of_lt hlimit)
      obtain ⟨count', rfl⟩ := Nat.exists_eq_add_one_of_ne_zero (Nat.ne_zero_of_lt hle)
      obtain ⟨symbol?, between, hnext, hrest⟩ := Reader.run_bind_eq_ok hrun
      obtain ⟨symbol?', between', hnext', ⟨rfl, rfl⟩, hplace'⟩ :=
        carriesAt_next?_cons hplace _ _ hnext
      obtain ⟨-, -, rfl⟩ := run_next?_eq_ok hnext
      simp only [Reader.takeUntil, Reader.run_bind_of_eq_ok hnext']
      dsimp only at hrest
      split at hrest
      next hclose =>
        cases hrest
        exact .inl ⟨_, _, by rw [if_pos hclose]; rfl, hplace'⟩
      next hclose =>
        obtain ⟨name, stop, hname, hreturn⟩ := Reader.run_bind_eq_ok hrest
        cases hreturn
        rw [if_neg hclose]
        refine (ih hplace' (Nat.lt_of_succ_lt_succ hlimit) (Nat.le_of_succ_le_succ hle)
          hname).imp_left ?_
        rintro ⟨name', stop', hname', hstop⟩
        exact ⟨_, stop', by rw [Reader.run_bind_of_eq_ok hname']; rfl, hstop⟩

theorem isLocal_readName (close : Char) (kind : NameKind) :
    IsLocal tail (Reader.readName close kind) := by
  have hmissing : ∀ start : List PatternSymbol, Fails (if start.isEmpty then
      Reader.fail (.missingName kind)
      else Reader.failBack (.unterminatedName close) (extent start) : Reader String) := by
    intro start
    split
    next => exact fails_fail _
    next => exact fails_failBack _ _
  refine Carries.get_bind fun short long hlength => ?_
  refine carries_takeUntil_bind close (Nat.succ_le_succ hlength) (hmissing short) fun name => ?_
  cases name with
  | nil => exact .of_fails (fails_failBack _ _) _
  | cons => exact .pure rfl

end Runs

/-! ## Repeated steps -/

section Loops

variable {tail : List PatternSymbol} {State Result : Type}
  {step step' : State → Reader (State ⊕ Result)}

theorem carries_untilDone (hstep : ∀ state, Carries tail Eq (step state) (step' state))
    (state : State) :
    Carries tail Eq (Reader.untilDone step state) (Reader.untilDone step' state) := by
  have hiterate : ∀ (stalled : Fault) (limit limit' : Nat) (state : State), limit ≤ limit' →
      Carries tail Eq (Reading.iterate stalled step limit state)
        (Reading.iterate stalled step' limit' state) := by
    intro stalled limit
    induction limit with
    | zero => exact fun _ _ _ => .of_fails (fails_throw stalled) _
    | succ limit ih =>
        intro limit' state hlimit
        obtain ⟨limit', rfl⟩ := Nat.exists_eq_add_one_of_ne_zero (Nat.ne_zero_of_lt hlimit)
        refine (hstep state).bind_eq fun outcome => ?_
        cases outcome with
        | inl following => exact ih limit' following (Nat.le_of_succ_le_succ hlimit)
        | inr result => exact .pure rfl
  exact Carries.get_bind fun short long hlength =>
    hiterate _ _ _ state (Nat.succ_le_succ hlength)

end Loops

end ShaderTokens.Pattern
