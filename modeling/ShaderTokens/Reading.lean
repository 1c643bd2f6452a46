/-!
# Reading input step by step

A reading takes items off the front of a list, or faults.  Loops repeat a step that reads at least
one item, so the length of the input bounds them.
-/

namespace ShaderTokens

abbrev Reading (Item Fault : Type) := StateT (List Item) (Except Fault)

namespace Reading

variable {Item Fault State Result : Type}

def peek? : Reading Item Fault (Option Item) := do
  return (← get).head?

def iterate (stalled : Fault) (step : State → Reading Item Fault (State ⊕ Result)) :
    Nat → State → Reading Item Fault Result
  | 0, _ => throw stalled
  | limit + 1, state => do
    match ← step state with
    | .inl following => iterate stalled step limit following
    | .inr result => return result

/-- Repeats a step until it yields a result.  The step that yields it need not read anything. -/
def untilDone (stalled : Fault) (step : State → Reading Item Fault (State ⊕ Result))
    (state : State) : Reading Item Fault Result := do
  iterate stalled step ((← get).length + 1) state

end Reading

end ShaderTokens
