import ShaderTokens.Pattern.Cursor

/-!
# Matching

A pattern is run from a cursor with a continuation that accepts or refuses the place where the match
may end.  The ways to match are tried in a fixed order, and the first accepted one decides: earlier
alternatives come first, greedy repetitions try one more round before they stop, lazy ones stop
before they try one more.  A round that consumes nothing ends its repetition.
-/

namespace ShaderTokens

namespace Pattern

abbrev Runner := Cursor → (Cursor → Option Cursor) → Option Cursor

/-! ## Repetition -/

def runTimes (body : Runner) : Nat → Runner
  | 0, cursor, accept => accept cursor
  | count + 1, cursor, accept => body cursor fun following => runTimes body count following accept

def runGreedy (body : Runner) (limit : Option Nat) : Runner := fun cursor accept =>
  if limit = some 0 then accept cursor
  else
    (body cursor fun following =>
      if following.after.length < cursor.after.length then
        runGreedy body (limit.map (· - 1)) following accept
      else accept following) <|> accept cursor
termination_by cursor => cursor.after.length

def runLazy (body : Runner) (limit : Option Nat) : Runner := fun cursor accept =>
  accept cursor <|>
    if limit = some 0 then none
    else
      body cursor fun following =>
        if following.after.length < cursor.after.length then
          runLazy body (limit.map (· - 1)) following accept
        else none
termination_by cursor => cursor.after.length

/-- Takes the first way through each round and never reconsiders it. -/
def lastRound (body : Runner) (limit : Option Nat) (cursor : Cursor) : Cursor :=
  if limit = some 0 then cursor
  else
    match body cursor some with
    | none => cursor
    | some following =>
      if following.after.length < cursor.after.length then
        lastRound body (limit.map (· - 1)) following
      else following
termination_by cursor.after.length

def firstRounds (body : Runner) : Nat → Cursor → Option Cursor
  | 0, cursor => some cursor
  | count + 1, cursor => (body cursor some).bind (firstRounds body count)

def runRepeated (body : Runner) (least : Nat) (greatest : Option Nat) : Greed → Runner
  | .greedy, cursor, accept =>
    runTimes body least cursor fun following =>
      runGreedy body (greatest.map (· - least)) following accept
  | .lazy, cursor, accept =>
    runTimes body least cursor fun following =>
      runLazy body (greatest.map (· - least)) following accept
  | .possessive, cursor, accept =>
    (firstRounds body least cursor).bind fun following =>
      accept (lastRound body (greatest.map (· - least)) following)

/-! ## Running a pattern -/

/-- Captured texts are not recorded: a reference to one never matches, and a conditional takes the
branch of an unset group. -/
def run : Pattern → Runner
  | .empty, cursor, accept => accept cursor
  | .oneOf set, cursor, accept =>
    match cursor.next? with
    | some (char, following) => if set.contains char then accept following else none
    | none => none
  | .anchor condition, cursor, accept => if cursor.satisfies condition then accept cursor else none
  | .both first second, cursor, accept =>
    first.run cursor fun following => second.run following accept
  | .either first second, cursor, accept => first.run cursor accept <|> second.run cursor accept
  | .repeated body least greatest greed, cursor, accept =>
    runRepeated body.run least greatest greed cursor accept
  | .atomic body, cursor, accept => (body.run cursor some).bind accept
  | .look direction negated body, cursor, accept =>
    let from? := match direction with
      | .ahead => some cursor
      | .behind => cursor.back? body.width.least
    let found := (from?.bind fun start => body.run start some).isSome
    if found != negated then accept cursor else none
  | .capture body, cursor, accept => body.run cursor accept
  | .reference _, _, _ => none
  | .conditional _ whenUnset, cursor, accept => whenUnset.run cursor accept

/-! ## Whole-text matches and searches -/

def matchesWhole (pattern : Pattern) (text : List Char) : Bool :=
  (pattern.run (.ofText text) fun cursor =>
    if cursor.after.isEmpty then some cursor else none).isSome

/-- The first match at or after the cursor, as the places where it starts and ends.  With
`nonemptyHere` a match at the cursor itself must consume something. -/
def findFrom? (pattern : Pattern) (nonemptyHere : Bool) (cursor : Cursor) :
    Option (Cursor × Cursor) :=
  let accept := fun following : Cursor =>
    if nonemptyHere && following.after.length == cursor.after.length then none else some following
  match pattern.run cursor accept with
  | some following => some (cursor, following)
  | none =>
    match cursor with
    | ⟨_, []⟩ => none
    | ⟨before, char :: after⟩ => pattern.findFrom? false ⟨char :: before, after⟩
termination_by cursor.after.length

/-- Successive matches: each search starts where the last match ended, and after an empty match the
next one there must not be empty. -/
def findAllFrom (pattern : Pattern) : Nat → Bool → Cursor → List (Nat × Nat)
  | 0, _, _ => []
  | count + 1, nonemptyHere, cursor =>
    match pattern.findFrom? nonemptyHere cursor with
    | none => []
    | some (start, stop) =>
      (start.offset, stop.offset) ::
        pattern.findAllFrom count (start.offset == stop.offset) stop

/-- Every match ends further on than the last, or is empty where a nonempty one ended, so twice the
length of the text bounds their number. -/
def findAll (pattern : Pattern) (text : List Char) : List (Nat × Nat) :=
  pattern.findAllFrom (2 * text.length + 2) false (.ofText text)

end Pattern

end ShaderTokens
