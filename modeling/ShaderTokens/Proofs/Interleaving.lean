import Mathlib.Data.List.Induction
import ShaderTokens.TokenStream

/-!
# Interleaved iterators

A stream can be read by any number of iterators at once, in any order, with full passes and readings
of the diagnostics in between.  Every iterator yields the tokens of a pass of its own, and every
reading finds the diagnostics of a complete pass.
-/

namespace ShaderTokens

/-! ## Schedules -/

inductive StreamOperation
  | start (name : String)
  | pull (name : String) (count : Nat)
  | abandon (name : String)
  | tokens (includeWhitespace : Bool)
  | diagnostics
  deriving DecidableEq, Repr

inductive StreamAnswer
  | done
  | noIterator
  | tokens (tokens : List Token)
  | diagnostics (diagnostics : List Diagnostic)
  deriving DecidableEq, Repr

namespace StreamSession

def step (session : StreamSession) : StreamOperation → StreamAnswer × StreamSession
  | .start name => (.done, session.start name)
  | .pull name count =>
    match session.pull name count with
    | none => (.noIterator, session)
    | some (tokens, following) => (.tokens tokens, following)
  | .abandon name => (.done, session.abandon name)
  | .tokens includeWhitespace =>
    let (tokens, following) := session.tokens includeWhitespace
    (.tokens tokens, following)
  | .diagnostics =>
    let (diagnostics, following) := session.diagnostics
    (.diagnostics diagnostics, following)

def after (session : StreamSession) (operations : List StreamOperation) : StreamSession :=
  operations.foldl (fun session operation => (session.step operation).2) session

def log (session : StreamSession) : List StreamOperation → List (StreamOperation × StreamAnswer)
  | [] => []
  | operation :: operations =>
    let (answer, following) := session.step operation
    (operation, answer) :: following.log operations

private theorem after_append_singleton (session : StreamSession) (operations : List StreamOperation)
    (operation : StreamOperation) :
    session.after (operations ++ [operation]) = ((session.after operations).step operation).2 := by
  simp [after]

@[simp] theorem log_append_singleton (session : StreamSession) (operations : List StreamOperation)
    (operation : StreamOperation) :
    session.log (operations ++ [operation]) =
      session.log operations ++ [(operation, ((session.after operations).step operation).1)] := by
  induction operations generalizing session with
  | nil => rfl
  | cons first operations ih =>
      exact congrArg ((first, (session.step first).1) :: ·) (ih (session.step first).2)

end StreamSession

/-! ## What an iterator is asked for, and what it yields -/

def nextAsked (name : String) (asked : Option Nat) : StreamOperation → Option Nat
  | .start other => if other = name then some 0 else asked
  | .pull other count => if other = name then asked.map (· + count) else asked
  | .abandon other => if other = name then none else asked
  | .tokens _ | .diagnostics => asked

def askedOf (name : String) (operations : List StreamOperation) : Option Nat :=
  operations.foldl (nextAsked name) none

/-- What the iterator of a name has yielded, once more is answered.  An iterator that gives no
tokens when it is asked for some is not alive. -/
def nextYielded (name : String) (yielded : Option (List Token)) :
    StreamOperation × StreamAnswer → Option (List Token)
  | (.start other, _) => if other = name then some [] else yielded
  | (.pull other _, .tokens tokens) => if other = name then yielded.map (· ++ tokens) else yielded
  | (.pull other _, _) => if other = name then none else yielded
  | (.abandon other, _) => if other = name then none else yielded
  | (.tokens _, _) | (.diagnostics, _) => yielded

def yieldedBy (name : String) (log : List (StreamOperation × StreamAnswer)) :
    Option (List Token) :=
  log.foldl (nextYielded name) none

@[simp] theorem askedOf_append_singleton (name : String) (operations : List StreamOperation)
    (operation : StreamOperation) :
    askedOf name (operations ++ [operation]) =
      nextAsked name (askedOf name operations) operation := by
  simp [askedOf]

private theorem yieldedBy_append_singleton (name : String)
    (log : List (StreamOperation × StreamAnswer))
    (entry : StreamOperation × StreamAnswer) :
    yieldedBy name (log ++ [entry]) = nextYielded name (yieldedBy name log) entry := by
  simp [yieldedBy]

/-! ## Taking tokens in portions -/

namespace Scanner

theorem toList_eq (scanner : Scanner) :
    scanner.toList =
      match scanner.next? with
      | none => []
      | some (token, following) => token :: following.toList := by
  rw [toList]
  split <;> simp_all

theorem fst_take (scanner : Scanner) (count : Nat) :
    (scanner.take count).1 = scanner.toList.take count := by
  induction count generalizing scanner with
  | zero => rfl
  | succ count ih =>
      rw [take, toList_eq]
      cases hnext : scanner.next? with
      | none => rfl
      | some next => simp [ih]

private theorem take_of_next?_eq_none {scanner : Scanner} (h : scanner.next? = none) (count : Nat) :
    scanner.take count = ([], scanner) := by
  cases count with
  | zero => rfl
  | succ count => simp [take, h]

theorem take_add (scanner : Scanner) (first second : Nat) :
    scanner.take (first + second) =
      ((scanner.take first).1 ++ ((scanner.take first).2.take second).1,
        ((scanner.take first).2.take second).2) := by
  induction first generalizing scanner with
  | zero => simp [take]
  | succ first ih =>
      rw [Nat.add_right_comm, take, take]
      cases hnext : scanner.next? with
      | none => simp [take_of_next?_eq_none hnext]
      | some next => simp [ih]

end Scanner

/-! ## Where an iterator stands -/

namespace TokenStream

variable (stream : TokenStream)

def iteratorAfter (asked : Nat) : StreamIterator :=
  ⟨(stream.scanner.take asked).2, stream.report (stream.scanner.take asked).1⟩

private theorem iteratorAfter_add (asked count : Nat) :
    stream.iteratorAfter (asked + count) =
      ⟨((stream.iteratorAfter asked).scanner.take count).2,
        (stream.iteratorAfter asked).reports ++
          stream.report ((stream.iteratorAfter asked).scanner.take count).1⟩ := by
  simp [iteratorAfter, Scanner.take_add, report]

theorem fst_take_iteratorAfter (asked count : Nat) :
    ((stream.iteratorAfter asked).scanner.take count).1 = (stream.scan.drop asked).take count := by
  have htake := congrArg Prod.fst (stream.scanner.take_add asked count)
  rw [Scanner.fst_take, Scanner.fst_take, List.take_add] at htake
  exact (List.append_cancel_left htake).symm

private theorem reports_iteratorAfter {asked count : Nat}
    (h : ((stream.iteratorAfter asked).scanner.take count).1.length < count) :
    (stream.iteratorAfter (asked + count)).reports = stream.diagnostics := by
  rw [fst_take_iteratorAfter, List.length_take, List.length_drop] at h
  have hlength : stream.scan.length ≤ asked + count := by omega
  simp only [iteratorAfter, Scanner.fst_take]
  rw [diagnostics]
  exact congrArg stream.report (List.take_of_length_le hlength)

end TokenStream

namespace StreamSession

private theorem lookup_filter {Value : Type} (keeps : String → Bool)
    (entries : List (String × Value)) (name : String) :
    (entries.filter fun entry => keeps entry.1).lookup name =
      if keeps name then entries.lookup name else none := by
  induction entries with
  | nil => simp
  | cons entry entries ih =>
      obtain ⟨key, value⟩ := entry
      by_cases hname : name = key
      · subst hname
        cases hkeeps : keeps name <;> simp [hkeeps, ih]
      · have hne : (name == key) = false := by simpa using hname
        cases hkeeps : keeps key <;> simp [hkeeps, List.lookup_cons, hne, ih]

@[simp] theorem lookup_abandon (session : StreamSession) (name other : String) :
    (session.abandon name).iterators.lookup other =
      if other = name then none else session.iterators.lookup other := by
  refine (lookup_filter (fun key => key ≠ name) session.iterators other).trans ?_
  by_cases hother : other = name <;> simp [hother]

@[simp] theorem lookup_setIterator (session : StreamSession) (name other : String)
    (iterator : StreamIterator) :
    (session.setIterator name iterator).iterators.lookup other =
      if other = name then some iterator else session.iterators.lookup other := by
  have hentries : (session.setIterator name iterator).iterators =
      (name, iterator) :: (session.abandon name).iterators := rfl
  rw [hentries]
  by_cases hother : other = name
  · simp [hother]
  · have hne : (other == name) = false := by simpa using hother
    rw [List.lookup_cons, hne, lookup_abandon, if_neg hother, if_neg hother]

/-- What a session is after some operations: every iterator stands where the tokens that it has been
asked for take it, and diagnostics, where they are known, are those of a complete pass. -/
structure Follows (session : StreamSession) (stream : TokenStream)
    (operations : List StreamOperation) : Prop where
  stream_eq : session.stream = stream
  lookup_eq : ∀ name,
    session.iterators.lookup name = (askedOf name operations).map stream.iteratorAfter
  known_eq : ∀ found ∈ session.known, found = stream.diagnostics

section Follows

variable {session : StreamSession} {stream : TokenStream} {operations : List StreamOperation}
  (h : session.Follows stream operations)

include h

theorem pull_of_follows_of_none {name : String} (hasked : askedOf name operations = none)
    (count : Nat) : session.pull name count = none := by
  rw [pull, h.lookup_eq, hasked]
  rfl

theorem pull_of_follows {name : String} {asked : Nat}
    (hasked : askedOf name operations = some asked) (count : Nat) :
    ∃ following, session.pull name count =
        some ((stream.allTokens.drop asked).take count, following) ∧
      following.stream = stream ∧
      following.iterators =
        (session.setIterator name (stream.iteratorAfter (asked + count))).iterators ∧
      ∀ found ∈ following.known, found = stream.diagnostics := by
  have hstream := h.stream_eq
  subst hstream
  have hscanned := session.stream.fst_take_iteratorAfter asked count
  have hreports := session.stream.iteratorAfter_add asked count
  rw [pull, h.lookup_eq, hasked, Option.map_some, Option.map_some]
  refine ⟨_, congrArg some (Prod.ext ?_ rfl), rfl, ?_, ?_⟩
  · simp only [hscanned, TokenStream.allTokens, List.map_take, List.map_drop]
  · rw [hreports]
  · intro found hfound
    dsimp only at hfound
    split at hfound
    · next hshort =>
      have hall := session.stream.reports_iteratorAfter hshort
      rw [hreports] at hall
      rw [← hall]
      exact (Option.some.inj hfound).symm
    · exact h.known_eq found hfound

theorem fst_diagnostics_of_follows : session.diagnostics.1 = stream.diagnostics := by
  rw [diagnostics, h.stream_eq]
  cases hknown : session.known with
  | none => rfl
  | some found => exact h.known_eq found hknown

private theorem follows_step (operation : StreamOperation) :
    (session.step operation).2.Follows stream (operations ++ [operation]) := by
  cases operation with
  | start name =>
      refine ⟨h.stream_eq, ?_, h.known_eq⟩
      intro other
      by_cases hother : other = name
      · simp [step, start, nextAsked, hother, h.stream_eq, TokenStream.iteratorAfter,
          Scanner.take, TokenStream.report]
      · simp [step, start, nextAsked, hother, Ne.symm hother, h.lookup_eq]
  | pull name count =>
      cases hasked : askedOf name operations with
      | none =>
          -- nobody answers, and nothing changes
          rw [step, pull_of_follows_of_none h hasked]
          refine ⟨h.stream_eq, ?_, h.known_eq⟩
          intro other
          by_cases hother : other = name
          · simp [nextAsked, hother, h.lookup_eq, hasked]
          · simp [nextAsked, Ne.symm hother, h.lookup_eq]
      | some asked =>
          obtain ⟨following, hpull, hstream, hiterators, hknown⟩ := pull_of_follows h hasked count
          rw [step, hpull]
          refine ⟨hstream, ?_, hknown⟩
          intro other
          by_cases hother : other = name
          · simp [hiterators, nextAsked, hother, hasked]
          · simp [hiterators, nextAsked, hother, Ne.symm hother, h.lookup_eq]
  | abandon name =>
      refine ⟨h.stream_eq, ?_, h.known_eq⟩
      intro other
      by_cases hother : other = name
      · simp [step, nextAsked, hother]
      · simp [step, nextAsked, hother, Ne.symm hother, h.lookup_eq]
  | tokens includeWhitespace =>
      refine ⟨h.stream_eq, ?_, ?_⟩
      · intro other
        rw [askedOf_append_singleton]
        exact h.lookup_eq other
      · simp [step, tokens, h.stream_eq]
  | diagnostics =>
      refine ⟨h.stream_eq, ?_, ?_⟩
      · intro other
        rw [askedOf_append_singleton]
        exact h.lookup_eq other
      · intro found hfound
        rw [← fst_diagnostics_of_follows h]
        exact (Option.some.inj hfound).symm

end Follows

theorem follows_after (stream : TokenStream) (operations : List StreamOperation) :
    ((StreamSession.mk stream [] none).after operations).Follows stream operations := by
  induction operations using List.reverseRecOn with
  | nil => exact ⟨rfl, fun _ => rfl, by simp [after]⟩
  | append_singleton operations operation ih =>
      rw [after_append_singleton]
      exact follows_step ih operation

end StreamSession

/-! ## Any interleaving -/

namespace TokenStream

def log (stream : TokenStream) (operations : List StreamOperation) :
    List (StreamOperation × StreamAnswer) :=
  (StreamSession.mk stream [] none).log operations

theorem exists_of_mem_log {stream : TokenStream} {operations : List StreamOperation}
    {operation : StreamOperation} {answer : StreamAnswer}
    (h : (operation, answer) ∈ stream.log operations) :
    ∃ session : StreamSession, ∃ earlier, session.Follows stream earlier ∧
      answer = (session.step operation).1 := by
  induction operations using List.reverseRecOn with
  | nil => contradiction
  | append_singleton operations last ih =>
      rw [log, StreamSession.log_append_singleton, List.mem_append, List.mem_singleton] at h
      rcases h with h | h
      · exact ih h
      · obtain ⟨rfl, rfl⟩ := Prod.mk.inj h
        exact ⟨_, operations, StreamSession.follows_after stream operations, rfl⟩

private theorem nextYielded_step {session : StreamSession} {stream : TokenStream}
    {operations : List StreamOperation} (h : session.Follows stream operations) (name : String)
    (operation : StreamOperation) :
    nextYielded name ((askedOf name operations).map stream.allTokens.take)
        (operation, (session.step operation).1) =
      (nextAsked name (askedOf name operations) operation).map stream.allTokens.take := by
  cases operation with
  | start other =>
      by_cases hother : other = name <;> simp [nextYielded, nextAsked, hother]
  | pull other count =>
      cases hasked : askedOf other operations with
      | none =>
          rw [StreamSession.step, StreamSession.pull_of_follows_of_none h hasked]
          by_cases hother : other = name
          · subst hother
            simp [nextYielded, nextAsked, hasked]
          · simp [nextYielded, nextAsked, hother]
      | some asked =>
          obtain ⟨following, hpull, -⟩ := StreamSession.pull_of_follows h hasked count
          rw [StreamSession.step, hpull]
          by_cases hother : other = name
          · subst hother
            simp [nextYielded, nextAsked, hasked, List.take_add]
          · simp [nextYielded, nextAsked, hother]
  | abandon other =>
      by_cases hother : other = name <;> simp [nextYielded, nextAsked, hother]
  | tokens | diagnostics => rfl

private theorem yieldedBy_log (stream : TokenStream) (operations : List StreamOperation)
    (name : String) :
    yieldedBy name (stream.log operations) =
      (askedOf name operations).map stream.allTokens.take := by
  induction operations using List.reverseRecOn with
  | nil => rfl
  | append_singleton operations operation ih =>
      have hfollows := StreamSession.follows_after stream operations
      rw [log, StreamSession.log_append_singleton, yieldedBy_append_singleton, ← log, ih,
        askedOf_append_singleton]
      exact nextYielded_step hfollows name operation

@[simp] theorem map_fst_log (stream : TokenStream) (operations : List StreamOperation) :
    (stream.log operations).map Prod.fst = operations := by
  induction operations using List.reverseRecOn with
  | nil => rfl
  | append_singleton operations operation ih =>
      rw [log, StreamSession.log_append_singleton, List.map_append, ← log, ih]
      rfl

end TokenStream

/-- Whatever else is done in between, an iterator yields the tokens of a complete pass from the
first one on, as many as it is asked for, and every pass and every reading of the diagnostics is
that of the whole source. -/
theorem iterators_are_independent (stream : TokenStream) (operations : List StreamOperation) :
    let log := stream.log operations
    log.map Prod.fst = operations ∧
      (∀ name, yieldedBy name log = (askedOf name operations).map stream.allTokens.take) ∧
      (∀ answer, (.diagnostics, answer) ∈ log → answer = .diagnostics stream.diagnostics) ∧
      ∀ includeWhitespace answer, (.tokens includeWhitespace, answer) ∈ log →
        answer = .tokens (stream.tokens includeWhitespace) := by
  refine ⟨stream.map_fst_log operations, stream.yieldedBy_log operations, ?_, ?_⟩
  · intro answer hanswer
    obtain ⟨session, earlier, hfollows, rfl⟩ := TokenStream.exists_of_mem_log hanswer
    exact congrArg StreamAnswer.diagnostics (StreamSession.fst_diagnostics_of_follows hfollows)
  · intro includeWhitespace answer hanswer
    obtain ⟨session, earlier, hfollows, rfl⟩ := TokenStream.exists_of_mem_log hanswer
    rw [StreamSession.step, StreamSession.tokens, hfollows.stream_eq]

theorem iterators_are_independent_restarted :
    let stream : TokenStream := ⟨⟨[]⟩, "x \"y", "input.hlsl"⟩
    let operations : List StreamOperation :=
      [.start "a", .pull "a" 2, .start "b", .diagnostics, .pull "b" 1, .pull "a" 5, .start "a",
        .tokens false, .pull "b" 1]
    let x : Token := ⟨"x", .identifier, 0, 1, 1, 1⟩
    let gap : Token := ⟨" ", .whitespace, 1, 2, 1, 2⟩
    let y : Token := ⟨"\"y", .stringLiteral, 2, 4, 1, 3⟩
    let reports := [Diagnostic.mk "unterminated string literal" y.span stream.source "input.hlsl"]
    yieldedBy "a" (stream.log operations) = some [] ∧
      yieldedBy "b" (stream.log operations) = some [x, gap] ∧
      (.diagnostics, .diagnostics reports) ∈ stream.log operations ∧ stream.diagnostics = reports ∧
      (.tokens false, .tokens [x, y]) ∈ stream.log operations ∧ stream.tokens false = [x, y] := by
  intro stream operations x gap y reports
  have hindependent := iterators_are_independent stream operations
  obtain ⟨-, hyielded, hdiagnostics, htokens⟩ := hindependent
  have hreports : (.diagnostics, .diagnostics reports) ∈ stream.log operations := by
    decide +kernel
  have hpass : (.tokens false, .tokens [x, y]) ∈ stream.log operations := by
    decide +kernel
  refine ⟨(hyielded "a").trans ?_, (hyielded "b").trans ?_, hreports, ?_, hpass, ?_⟩
  · decide +kernel
  · decide +kernel
  · exact (StreamAnswer.diagnostics.inj (hdiagnostics _ hreports)).symm
  · exact (StreamAnswer.tokens.inj (htokens _ _ hpass)).symm

end ShaderTokens
