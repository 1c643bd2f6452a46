import ShaderTokens.MachineIterators
import ShaderTokens.Proofs.Interleaving
import ShaderTokens.Proofs.OpenConstruct
import ShaderTokens.Proofs.ScanRounds

/-!
# Iterators that share a cursor

Between two tokens a machine stands where a scanner stands, so it does not matter which iterator
asks for the next token.  Whatever the turns, the tokens that are handed out are the first ones of
a single pass, and the report on the last token is there once that token has been handed out.
-/

namespace ShaderTokens

/-! ## Up to the next token -/

namespace ScanMachine

section Resuming

variable {machine following : ScanMachine}

theorem resume_of_remaining_eq_nil (h : machine.remaining = []) :
    machine.resume = .ok (none, machine) := by
  simp [resume, h]

theorem resume_of_round_eq_some {token : ScannedToken} (hmore : machine.remaining ≠ [])
    (hround : machine.round = .ok (some token, following)) :
    machine.resume = .ok (some token, following) := by
  rw [resume, if_neg (by simpa using hmore)]
  split <;> simp_all

private theorem resume_of_round_eq_none (hmore : machine.remaining ≠ [])
    (hround : machine.round = .ok (none, following)) : machine.resume = following.resume := by
  rw [resume, if_neg (by simpa using hmore)]
  split <;> simp_all

end Resuming

@[simp] theorem resume_ofScanner (scanner : Scanner) :
    (ofScanner scanner).resume =
      .ok (match scanner.next? with
        | none => (none, ofScanner scanner)
        | some (token, following) => (some token, ofScanner following)) := by
  cases hremaining : scanner.remaining with
  | nil =>
      have hnext : scanner.next? = none := by rw [Scanner.next?, hremaining]
      rw [hnext]
      exact resume_of_remaining_eq_nil hremaining
  | cons first others =>
      have hmore : (ofScanner scanner).remaining ≠ [] := by simp [ofScanner, hremaining]
      have hnext : scanner.next? =
          some (Scanner.scanned scanner.position
            (Lexeme.read scanner.lexicon scanner.context first others),
            scanner.skip (Lexeme.read scanner.lexicon scanner.context first others)) := by
        rw [Scanner.next?, hremaining]
      rw [hnext]
      rcases Tracks.round (.inl (Eq.refl (ofScanner scanner))) hremaining with
        hyields | ⟨entered, hentered, henters⟩
      · exact resume_of_round_eq_some hmore hyields
      · -- the comment or the string that has been entered is read in the next round
        have hinside : entered.remaining ≠ [] := by rwa [hentered.remaining_eq]
        rw [resume_of_round_eq_none hmore henters]
        exact resume_of_round_eq_some hinside (round_of_enters hentered hremaining)

end ScanMachine

/-! ## A shared scan -/

namespace SharedScan

@[simp] theorem pull_zero (scan : SharedScan) : scan.pull 0 = ([], scan) := by
  simp [pull, Scanner.take]

private theorem pull_succ_of_none {scan : SharedScan} (h : scan.scanner.next? = none)
    (count : Nat) :
    scan.pull (count + 1) = ([], scan) := by
  simp [pull, Scanner.take, h]

private theorem pull_succ_of_some {scan : SharedScan} {scanned : ScannedToken} {scanner : Scanner}
    (h : scan.scanner.next? = some (scanned, scanner)) (count : Nat) :
    scan.pull (count + 1) =
      let (tokens, last) := pull ⟨scanner, scan.faults ++ scanned.fault.toList⟩ count
      (scanned.token :: tokens, last) := by
  cases hfault : scanned.fault <;> simp [pull, Scanner.take, h, hfault]

end SharedScan

/-! ## One turn -/

namespace MachineSession

/-- The machine of a session stands where a shared scan stands, and iterators are at their end only
if the scan is. -/
structure Refines (session : MachineSession) (shared : SharedSession) : Prop where
  machine_eq : session.machine = .ofScanner shared.scan.scanner
  faults_eq : session.faults = shared.scan.faults
  isSome_lookup : ∀ name, (session.iterators.lookup name).isSome = shared.names.contains name
  ended : ∀ name, session.iterators.lookup name = some .ended → shared.scan.scanner.next? = none

@[simp] theorem lookup_setIterator (session : MachineSession) (name other : String)
    (state : IteratorState) :
    (session.setIterator name state).iterators.lookup other =
      if other = name then some state else session.iterators.lookup other := by
  rw [setIterator, List.lookup_cons]
  by_cases h : other = name
  · simp [h]
  · have hne : (other == name) = false := by simpa using h
    simp [h, hne]

namespace Refines

variable {session : MachineSession} {shared : SharedSession}

theorem ofSource (lexicon : Lexicon) (source : String) :
    (MachineSession.ofSource lexicon source).Refines (.ofSource lexicon source) where
  machine_eq := (ScanMachine.ofScanner_ofSource lexicon source).symm
  faults_eq := rfl
  isSome_lookup _ := rfl
  ended := by simp [MachineSession.ofSource]

private theorem next_of_none (h : session.Refines shared) {name : String}
    (hname : (session.iterators.lookup name).isSome = true)
    (hnext : shared.scan.scanner.next? = none) :
    ∃ following, session.next name = .ok (none, following) ∧ following.Refines shared := by
  obtain ⟨state, hstate⟩ := Option.isSome_iff_exists.mp hname
  cases state with
  | ended =>
      refine ⟨session, ?_, h⟩
      rw [next, hstate]
      rfl
  | waiting =>
      refine ⟨{ session with machine := .ofScanner shared.scan.scanner }.setIterator name .ended,
        ?_, rfl, h.faults_eq, ?_, fun _ _ => hnext⟩
      · rw [next, hstate, h.machine_eq]
        simp only [ScanMachine.resume_ofScanner, hnext]
        rfl
      · intro other
        rw [lookup_setIterator, ← h.isSome_lookup]
        split
        · next heq => rw [heq, hstate]; rfl
        · rfl

private theorem next_of_some (h : session.Refines shared) {name : String}
    (hname : (session.iterators.lookup name).isSome = true) {scanned : ScannedToken}
    {scanner : Scanner} (hnext : shared.scan.scanner.next? = some (scanned, scanner)) :
    ∃ following, session.next name = .ok (some scanned.token, following) ∧
      following.iterators = session.iterators ∧
      following.Refines
        { shared with scan := ⟨scanner, shared.scan.faults ++ scanned.fault.toList⟩ } := by
  have hended : ∀ other, session.iterators.lookup other ≠ some .ended := by
    intro other hother
    rw [h.ended other hother] at hnext
    contradiction
  obtain ⟨state, hstate⟩ := Option.isSome_iff_exists.mp hname
  cases state with
  | ended => exact absurd hstate (hended name)
  | waiting =>
      refine ⟨{ session with
        machine := .ofScanner scanner
        faults := session.faults ++ scanned.fault.toList }, ?_, rfl, rfl, ?_, h.isSome_lookup, ?_⟩
      · rw [next, hstate, h.machine_eq]
        simp only [ScanMachine.resume_ofScanner, hnext]
        rfl
      · simp [h.faults_eq]
      · intro other hother
        exact absurd hother (hended other)

theorem pull (h : session.Refines shared) {name : String}
    (hname : (session.iterators.lookup name).isSome = true) (count : Nat) :
    ∃ following, session.pull name count = .ok ((shared.scan.pull count).1, following) ∧
      following.Refines { shared with scan := (shared.scan.pull count).2 } := by
  induction count generalizing session shared with
  | zero =>
      rw [SharedScan.pull_zero]
      exact ⟨session, rfl, h⟩
  | succ count ih =>
      cases hnext : shared.scan.scanner.next? with
      | none =>
          obtain ⟨following, hstep, hfollowing⟩ := h.next_of_none hname hnext
          rw [SharedScan.pull_succ_of_none hnext, MachineSession.pull, hstep]
          exact ⟨following, rfl, hfollowing⟩
      | some next =>
          obtain ⟨scanned, scanner⟩ := next
          obtain ⟨following, hstep, hiterators, hfollowing⟩ := h.next_of_some hname hnext
          rw [← hiterators] at hname
          obtain ⟨last, hpull, hlast⟩ := ih hfollowing hname
          rw [SharedScan.pull_succ_of_some hnext, MachineSession.pull, hstep]
          refine ⟨last, ?_, hlast⟩
          simp only [bind, Except.bind, hpull]
          rfl

/-- Whichever iterator takes its turn, the answer is that of the shared scan. -/
theorem step (h : session.Refines shared) (operation : ScanOperation) :
    ∃ following, session.step operation = .ok ((shared.step operation).1, following) ∧
      following.Refines (shared.step operation).2 := by
  cases operation with
  | start name =>
      refine ⟨session.setIterator name .waiting, ?_, h.machine_eq, h.faults_eq, ?_, ?_⟩
      · rw [MachineSession.step, h.faults_eq]
        rfl
      · intro other
        rw [lookup_setIterator, SharedSession.step, List.contains_cons, ← h.isSome_lookup]
        by_cases hother : other = name
        · simp [hother]
        · have hne : (other == name) = false := by simpa using hother
          simp [hother, hne]
      · intro other hother
        rw [lookup_setIterator] at hother
        split at hother
        · contradiction
        · exact h.ended other hother
  | pull name count =>
      cases hname : (session.iterators.lookup name).isSome with
      | false =>
          have hunknown : shared.names.contains name = false := by rw [← h.isSome_lookup, hname]
          have hnone : (session.iterators.lookup name).isNone = true := by simpa using hname
          refine ⟨session, ?_, ?_⟩
          · rw [MachineSession.step, if_pos hnone, SharedSession.step, hunknown]
            rfl
          · rw [SharedSession.step, hunknown]
            exact h
      | true =>
          have hknown : shared.names.contains name = true := by rw [← h.isSome_lookup, hname]
          have hsome : ¬ (session.iterators.lookup name).isNone = true := by simp_all
          obtain ⟨following, hpull, hfollowing⟩ := h.pull hname count
          refine ⟨following, ?_, ?_⟩
          · rw [MachineSession.step, if_neg hsome, SharedSession.step, if_pos hknown]
            simp only [bind, Except.bind, hpull, hfollowing.faults_eq]
            rfl
          · rw [SharedSession.step, if_pos hknown]
            exact hfollowing

theorem log (h : session.Refines shared) (operations : List ScanOperation) :
    session.log operations = .ok (shared.log operations) := by
  induction operations generalizing session shared with
  | nil => rfl
  | cons operation operations ih =>
      obtain ⟨following, hstep, hfollowing⟩ := h.step operation
      rw [MachineSession.log, hstep]
      simp only [bind, Except.bind, ih hfollowing]
      rfl

end Refines

end MachineSession

/-! ## Where a shared scan stands -/

namespace TokenStream

variable (stream : TokenStream)

def scanAfter (asked : Nat) : SharedScan :=
  ⟨(stream.scanner.take asked).2, (stream.scan.take asked).filterMap ScannedToken.fault⟩

@[simp] theorem scanAfter_zero : stream.scanAfter 0 = .ofSource stream.lexicon stream.source := by
  rw [scanAfter, Scanner.take, List.take_zero, List.filterMap_nil]
  rfl

theorem pull_scanAfter (asked count : Nat) :
    (stream.scanAfter asked).pull count =
      ((stream.allTokens.drop asked).take count, stream.scanAfter (asked + count)) := by
  have hscanned : ((stream.scanner.take asked).2.take count).1 =
      (stream.scan.drop asked).take count := stream.fst_take_iteratorAfter asked count
  have hscanner : (stream.scanner.take (asked + count)).2 =
      ((stream.scanner.take asked).2.take count).2 := by rw [Scanner.take_add]
  simp only [scanAfter, SharedScan.pull, hscanned, hscanner, List.take_add, List.filterMap_append,
    allTokens, List.map_take, List.map_drop]

private theorem getLast?_of_fault_ne_none {scanned : ScannedToken} (h : scanned ∈ stream.scan)
    (hfault : scanned.fault ≠ none) : stream.scan.getLast? = some scanned := by
  rcases List.eq_nil_or_concat' stream.scan with hnil | ⟨front, last, hscan⟩
  · rw [hnil] at h
    contradiction
  · rw [hscan] at h
    rcases List.mem_append.mp h with hfront | hlast
    · have hdropLast : scanned ∈ stream.scan.dropLast := by rwa [hscan, List.dropLast_concat]
      exact absurd (fault_eq_none_of_mem_dropLast hdropLast) hfault
    · rw [hscan, List.getLast?_concat, List.mem_singleton.mp hlast]

theorem faults_scanAfter_ne_nil_iff (asked : Nat) :
    (stream.scanAfter asked).faults ≠ [] ↔
      ∃ last ∈ stream.allTokens.getLast?, (∃ fault, last.IsLeftOpen fault) ∧
        last ∈ stream.allTokens.take asked := by
  rw [scanAfter, allTokens, List.getLast?_map, ← List.map_take]
  constructor
  · intro hfaults
    obtain ⟨fault, hfault⟩ := List.exists_mem_of_ne_nil _ hfaults
    obtain ⟨scanned, htaken, hscanned⟩ := List.mem_filterMap.mp hfault
    have hmem := List.mem_of_mem_take htaken
    have hlast := stream.getLast?_of_fault_ne_none hmem (by simp [hscanned])
    refine ⟨scanned.token, by simp [hlast], ⟨fault, ?_⟩, List.mem_map_of_mem htaken⟩
    exact (fault_eq_some_iff hmem fault).mp hscanned
  · rintro ⟨last, -, ⟨fault, hopen⟩, htaken⟩
    obtain ⟨scanned, hscanned, rfl⟩ := List.mem_map.mp htaken
    have hfault := (fault_eq_some_iff (List.mem_of_mem_take hscanned) fault).mpr hopen
    exact List.ne_nil_of_mem (List.mem_filterMap.mpr ⟨scanned, hscanned, hfault⟩)

end TokenStream

/-! ## Any turns -/

def ScanOperation.asked : ScanOperation → Nat
  | start _ => 0
  | pull _ count => count

namespace SharedSession

variable {stream : TokenStream} {session : SharedSession} {asked : Nat}

theorem step_eq_or (hscan : session.scan = stream.scanAfter asked) (operation : ScanOperation) :
    (∃ name count, operation = .pull name count ∧ name ∉ session.names ∧
      session.step operation = (.noIterator, session)) ∨
    ((∀ name count, operation = .pull name count → name ∈ session.names) ∧
      (session.step operation).1 =
        .handed ((stream.allTokens.drop asked).take operation.asked)
          (stream.scanAfter (asked + operation.asked)).faults ∧
      (session.step operation).2.scan = stream.scanAfter (asked + operation.asked)) := by
  cases operation with
  | start name =>
      right
      simp [step, ScanOperation.asked, hscan]
  | pull name count =>
      by_cases hname : name ∈ session.names
      · right
        have hcontains : session.names.contains name = true := List.contains_iff_mem.mpr hname
        rw [step, if_pos hcontains, hscan, stream.pull_scanAfter]
        refine ⟨?_, rfl, rfl⟩
        rintro _ _ ⟨⟩
        exact hname
      · left
        have hcontains : ¬ session.names.contains name = true := by simpa using hname
        refine ⟨name, count, rfl, hname, ?_⟩
        rw [step, if_neg hcontains]

/-- Together the answers to any operations hand out the next tokens of the stream. -/
theorem exists_handedOut_log (hscan : session.scan = stream.scanAfter asked)
    (operations : List ScanOperation) :
    ∃ count, handedOut (session.log operations) = (stream.allTokens.drop asked).take count ∧
      (session.after operations).scan = stream.scanAfter (asked + count) := by
  induction operations generalizing session asked with
  | nil => exact ⟨0, by simp [log, handedOut], hscan⟩
  | cons operation operations ih =>
      have hlog : handedOut (session.log (operation :: operations)) =
          (session.step operation).1.tokens ++
            handedOut ((session.step operation).2.log operations) := rfl
      have hafter : session.after (operation :: operations) =
          (session.step operation).2.after operations := rfl
      rw [hlog, hafter]
      rcases step_eq_or hscan operation with ⟨_, _, _, _, hstep⟩ | ⟨-, hanswer, hfollowing⟩
      · rw [hstep]
        exact ih hscan
      · obtain ⟨count, htokens, hlast⟩ := ih hfollowing
        refine ⟨operation.asked + count, ?_, ?_⟩
        · rw [hanswer, htokens, ScanAnswer.tokens, List.take_add, List.drop_drop]
        · rw [hlast, Nat.add_assoc]

private theorem mem_names_after (session : SharedSession) (operations : List ScanOperation)
    (name : String) :
    name ∈ (session.after operations).names ↔
      name ∈ session.names ∨ .start name ∈ operations := by
  induction operations generalizing session with
  | nil => simp [after]
  | cons operation operations ih =>
      have hafter : session.after (operation :: operations) =
          (session.step operation).2.after operations := rfl
      rw [hafter, ih, List.mem_cons]
      cases operation with
      | start other =>
          simp only [step, List.mem_cons, ScanOperation.start.injEq]
          tauto
      | pull other count =>
          have hnames : (session.step (.pull other count)).2.names = session.names := by
            rw [step]
            split <;> rfl
          simp [hnames]

@[simp] theorem map_fst_log (session : SharedSession) (operations : List ScanOperation) :
    (session.log operations).map Prod.fst = operations := by
  induction operations generalizing session with
  | nil => rfl
  | cons operation operations ih =>
      rw [log, List.map_cons, ih]

theorem log_eq_append_cons {operations : List ScanOperation}
    {earlier later : List (ScanOperation × ScanAnswer)} {entry : ScanOperation × ScanAnswer}
    (h : session.log operations = earlier ++ entry :: later) :
    ∃ first rest, earlier = session.log first ∧
      entry.2 = ((session.after first).step entry.1).1 ∧
      later = ((session.after first).step entry.1).2.log rest := by
  induction operations generalizing session earlier with
  | nil => cases earlier <;> contradiction
  | cons operation operations ih =>
      rw [log] at h
      cases earlier with
      | nil =>
          obtain ⟨rfl, rfl⟩ := List.cons.inj h
          exact ⟨[], operations, rfl, rfl, rfl⟩
      | cons head earlier =>
          obtain ⟨rfl, hrest⟩ := List.cons.inj h
          obtain ⟨first, rest, rfl, hentry, hlater⟩ := ih hrest
          exact ⟨operation :: first, rest, rfl, hentry, hlater⟩

end SharedSession

/-- Iterators over one machine hand out the tokens of a stream between them, and report its end with
its last token. -/
structure SharesCursor (stream : TokenStream) (operations : List ScanOperation)
    (log : List (ScanOperation × ScanAnswer)) : Prop where
  answered : log.map Prod.fst = operations
  alive : ∀ {earlier name count answer later},
    log = earlier ++ (.pull name count, answer) :: later →
      (answer = .noIterator ↔ .start name ∉ earlier.map Prod.fst)
  isPrefix : handedOut log <+: stream.allTokens
  upTo : ∀ {earlier name count answer later},
    log = earlier ++ (.pull name count, answer) :: later → answer.tokens.length ≤ count
  short : ∀ {earlier name count tokens faults later},
    log = earlier ++ (.pull name count, .handed tokens faults) :: later → tokens.length < count →
      handedOut earlier ++ tokens = stream.allTokens ∧ ∀ entry ∈ later, entry.2.tokens = []
  reported : ∀ {earlier operation tokens faults later},
    log = earlier ++ (operation, .handed tokens faults) :: later →
      (faults ≠ [] ↔ ∃ last ∈ stream.allTokens.getLast?, (∃ fault, last.IsLeftOpen fault) ∧
        last ∈ handedOut earlier ++ tokens)

namespace SharedSession

variable {stream : TokenStream}

@[simp] theorem scan_ofSource (stream : TokenStream) :
    (SharedSession.ofSource stream.lexicon stream.source).scan = stream.scanAfter 0 :=
  stream.scanAfter_zero.symm

theorem exists_of_log_eq {operations : List ScanOperation}
    {earlier later : List (ScanOperation × ScanAnswer)} {operation : ScanOperation}
    {answer : ScanAnswer}
    (h : (SharedSession.ofSource stream.lexicon stream.source).log operations =
      earlier ++ (operation, answer) :: later) :
    ∃ asked, handedOut earlier = stream.allTokens.take asked ∧
      ((∃ name count, operation = .pull name count ∧ .start name ∉ earlier.map Prod.fst ∧
        answer = .noIterator) ∨
      ((∀ name count, operation = .pull name count → .start name ∈ earlier.map Prod.fst) ∧
        answer = .handed ((stream.allTokens.drop asked).take operation.asked)
          (stream.scanAfter (asked + operation.asked)).faults ∧
        ∃ count, handedOut later =
          (stream.allTokens.drop (asked + operation.asked)).take count)) := by
  obtain ⟨first, rest, rfl, hanswer, rfl⟩ := log_eq_append_cons h
  obtain ⟨asked, hearlier, hscan⟩ :=
    exists_handedOut_log (scan_ofSource stream) first
  rw [Nat.zero_add] at hscan
  have hnames : ∀ name, name ∈ ((SharedSession.ofSource stream.lexicon stream.source).after
      first).names ↔ .start name ∈ first := by
    intro name
    rw [mem_names_after]
    simp [SharedSession.ofSource]
  simp only [map_fst_log, ← hnames]
  refine ⟨asked, by simpa using hearlier, ?_⟩
  dsimp only at hanswer ⊢
  rcases step_eq_or hscan operation with
    ⟨name, count, hoperation, hname, hstep⟩ | ⟨hname, hhanded, hfollowing⟩
  · left
    rw [hstep] at hanswer
    exact ⟨name, count, hoperation, hname, hanswer⟩
  · right
    obtain ⟨count, hlater, -⟩ := exists_handedOut_log hfollowing rest
    exact ⟨hname, hanswer.trans hhanded, count, hlater⟩

private theorem sharesCursor_log (stream : TokenStream) (operations : List ScanOperation) :
    SharesCursor stream operations
      ((SharedSession.ofSource stream.lexicon stream.source).log operations) where
  answered := map_fst_log _ _
  alive := by
    intro earlier name count answer later hlog
    obtain ⟨asked, -, ⟨name, count, ⟨⟩, hname, rfl⟩ | ⟨hname, rfl, -⟩⟩ := exists_of_log_eq hlog
    · simpa using hname
    · simpa using hname name count rfl
  isPrefix := by
    obtain ⟨count, hhanded, -⟩ := exists_handedOut_log (scan_ofSource stream) operations
    rw [hhanded, List.drop_zero]
    exact List.take_prefix _ _
  upTo := by
    intro earlier name count answer later hlog
    obtain ⟨asked, -, ⟨name, count, ⟨⟩, -, rfl⟩ | ⟨-, rfl, -⟩⟩ := exists_of_log_eq hlog
    · exact Nat.zero_le _
    · exact List.length_take_le _ _
  short := by
    intro earlier name count tokens faults later hlog hshort
    obtain ⟨asked, hearlier, ⟨_, _, _, _, hnone⟩ | ⟨-, hhanded, further, hlater⟩⟩ :=
      exists_of_log_eq hlog
    · contradiction
    · obtain ⟨rfl, -⟩ := ScanAnswer.handed.inj hhanded
      rw [ScanOperation.asked] at hshort hlater
      rw [List.length_take, List.length_drop] at hshort
      have hall : stream.allTokens.length ≤ asked + count := by omega
      constructor
      · rw [hearlier, ScanOperation.asked, ← List.take_add, List.take_of_length_le hall]
      · rw [List.drop_of_length_le hall, List.take_nil] at hlater
        exact List.flatMap_eq_nil_iff.mp hlater
  reported := by
    intro earlier operation tokens faults later hlog
    obtain ⟨asked, hearlier, ⟨_, _, _, _, hnone⟩ | ⟨-, hhanded, -⟩⟩ := exists_of_log_eq hlog
    · contradiction
    · obtain ⟨rfl, rfl⟩ := ScanAnswer.handed.inj hhanded
      rw [hearlier, ← List.take_add]
      exact stream.faults_scanAfter_ne_nil_iff (asked + operation.asked)

end SharedSession

/-- Whatever turns the iterators over one machine take, nothing goes wrong, nothing is lost and
nothing is handed out twice. -/
theorem exists_log_and_sharesCursor (stream : TokenStream) (operations : List ScanOperation) :
    ∃ log, (MachineSession.ofSource stream.lexicon stream.source).log operations = .ok log ∧
      (SharedSession.ofSource stream.lexicon stream.source).log operations = log ∧
      SharesCursor stream operations log := by
  have hrefines := MachineSession.Refines.ofSource stream.lexicon stream.source
  exact ⟨_, hrefines.log operations, rfl, SharedSession.sharesCursor_log stream operations⟩

end ShaderTokens
