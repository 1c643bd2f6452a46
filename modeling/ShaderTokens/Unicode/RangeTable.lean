/-!
# Tables of code point ranges

A property of characters is given by the sorted, disjoint ranges of code points that have it, and
looked up by bisection.
-/

namespace ShaderTokens.Unicode

/-- Inclusive ranges of code points, in increasing order. -/
structure RangeTable where
  ranges : Array (Nat × Nat)

namespace RangeTable

/-- The range that holds a code point, among those with index in `low ..< high`. -/
def findBetween? (table : RangeTable) (code low high : Nat) : Option (Nat × Nat) :=
  if low < high then
    let middle := (low + high) / 2
    match table.ranges[middle]? with
    | none => none
    | some (first, last) =>
      if code < first then table.findBetween? code low middle
      else if last < code then table.findBetween? code (middle + 1) high
      else some (first, last)
  else none
termination_by high - low

def find? (table : RangeTable) (code : Nat) : Option (Nat × Nat) :=
  table.findBetween? code 0 table.ranges.size

def contains (table : RangeTable) (code : Nat) : Bool :=
  (table.find? code).isSome

end RangeTable

end ShaderTokens.Unicode
