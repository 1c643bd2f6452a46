import ShaderTokens.ScanMachine
import ShaderTokens.TokenStream

/-!
# Iterators over one machine

A machine that scans in rounds has one place in its source, and every iterator over it moves that
place.  An iterator is a loop that makes rounds until one of them yields a token, and waits there;
all that it has for itself is whether its loop has come to an end.
-/

namespace ShaderTokens

/-! ## Rounds up to the next token -/

/-- How many rounds may yield nothing before one yields a token. -/
def ScanMode.silentRounds : ScanMode → Nat
  | plain | preprocessorLine => 1
  | lineComment | blockComment | string => 0

namespace ScanMachine

theorem yielding_ne_none (result : Except MachineFault (ScannedToken × ScanMachine))
    (following : ScanMachine) : yielding result ≠ .ok (none, following) := by
  cases result with
  | error fault => simp [yielding, Except.map]
  | ok next => simp [yielding, Except.map]

theorem silentRounds_of_readOutside {machine following : ScanMachine}
    (h : machine.readOutside = .ok (none, following)) : following.mode.silentRounds = 0 := by
  -- a round that yields nothing has entered a comment or a string
  unfold readOutside at h
  dsimp only at h
  repeat' split at h
  all_goals first
    | exact absurd h (yielding_ne_none _ _)
    | cases h; rfl

private theorem silentRounds_of_round {machine following : ScanMachine}
    (h : machine.round = .ok (none, following)) :
    following.mode.silentRounds < machine.mode.silentRounds := by
  unfold round at h
  split at h
  next hmode =>
    rw [hmode, silentRounds_of_readOutside h]
    exact Nat.one_pos
  next hmode =>
    rw [hmode, silentRounds_of_readOutside h]
    exact Nat.one_pos
  all_goals exact absurd h (yielding_ne_none _ _)

def resume (machine : ScanMachine) : Except MachineFault (Option ScannedToken × ScanMachine) :=
  if machine.remaining.isEmpty then .ok (none, machine)
  else
    match _ : machine.round with
    | .error fault => .error fault
    | .ok (some token, following) => .ok (some token, following)
    | .ok (none, following) => following.resume
termination_by machine.mode.silentRounds
decreasing_by exact silentRounds_of_round (by assumption)

end ScanMachine

/-! ## Schedules -/

inductive ScanOperation
  | start (name : String)
  | pull (name : String) (count : Nat)
  deriving DecidableEq, Repr

inductive ScanAnswer
  | noIterator
  | handed (tokens : List Token) (faults : List Unterminated)
  deriving DecidableEq, Repr

namespace ScanAnswer

def tokens : ScanAnswer → List Token
  | noIterator => []
  | handed tokens _ => tokens

end ScanAnswer

def handedOut (log : List (ScanOperation × ScanAnswer)) : List Token :=
  log.flatMap fun entry => entry.2.tokens

/-! ## Taking turns -/

inductive IteratorState
  | waiting
  | ended
  deriving DecidableEq, Repr

/-- The state of an iterator is its first in the list. -/
structure MachineSession where
  machine : ScanMachine
  faults : List Unterminated := []
  iterators : List (String × IteratorState) := []

namespace MachineSession

def ofSource (lexicon : Lexicon) (source : String) : MachineSession :=
  { machine := .ofSource lexicon source }

def setIterator (session : MachineSession) (name : String) (state : IteratorState) :
    MachineSession :=
  { session with iterators := (name, state) :: session.iterators }

/-- An iterator that has come to its end gives nothing, whatever the machine does. -/
def next (session : MachineSession) (name : String) :
    Except MachineFault (Option Token × MachineSession) :=
  match session.iterators.lookup name with
  | some .waiting => do
    match ← session.machine.resume with
    | (some scanned, machine) =>
      return (some scanned.token,
        { session with machine, faults := session.faults ++ scanned.fault.toList })
    | (none, machine) => return (none, { session with machine }.setIterator name .ended)
  | some .ended | none => return (none, session)

def pull (session : MachineSession) (name : String) :
    Nat → Except MachineFault (List Token × MachineSession)
  | 0 => return ([], session)
  | count + 1 => do
    match ← session.next name with
    | (none, following) => return ([], following)
    | (some token, following) => do
      let (tokens, last) ← following.pull name count
      return (token :: tokens, last)

def step (session : MachineSession) :
    ScanOperation → Except MachineFault (ScanAnswer × MachineSession)
  | .start name => return (.handed [] session.faults, session.setIterator name .waiting)
  | .pull name count =>
    if (session.iterators.lookup name).isNone then return (.noIterator, session)
    else do
      let (tokens, following) ← session.pull name count
      return (.handed tokens following.faults, following)

def log (session : MachineSession) :
    List ScanOperation → Except MachineFault (List (ScanOperation × ScanAnswer))
  | [] => return []
  | operation :: operations => do
    let (answer, following) ← session.step operation
    return (operation, answer) :: (← following.log operations)

end MachineSession

/-! ## Without iterators -/

structure SharedSession where
  scan : SharedScan
  names : List String := []

namespace SharedSession

def ofSource (lexicon : Lexicon) (source : String) : SharedSession :=
  { scan := .ofSource lexicon source }

def step (session : SharedSession) : ScanOperation → ScanAnswer × SharedSession
  | .start name =>
    (.handed [] session.scan.faults, { session with names := name :: session.names })
  | .pull name count =>
    if session.names.contains name then
      let (tokens, scan) := session.scan.pull count
      (.handed tokens scan.faults, { session with scan })
    else (.noIterator, session)

def after (session : SharedSession) (operations : List ScanOperation) : SharedSession :=
  operations.foldl (fun session operation => (session.step operation).2) session

def log (session : SharedSession) : List ScanOperation → List (ScanOperation × ScanAnswer)
  | [] => []
  | operation :: operations =>
    let (answer, following) := session.step operation
    (operation, answer) :: following.log operations

end SharedSession

end ShaderTokens
