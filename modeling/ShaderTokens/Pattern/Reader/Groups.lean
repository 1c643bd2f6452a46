import ShaderTokens.Pattern.Reader.Basic

/-!
# Capture groups

Groups are numbered in the order in which they open, from 1.  What a reference to a group may match
is as wide as the group, so widths are kept once a group is closed.
-/

namespace ShaderTokens.Pattern

/-- The groups opened so far.  Number 0 is the whole pattern, which is never closed while it is
read. -/
structure Groups where
  opened : Nat := 1
  widths : List (Nat × Width) := []
  names : List (String × Nat) := []

namespace Groups

def captures (groups : Groups) : Nat := groups.opened - 1

def width? (groups : Groups) (group : Nat) : Option Width := groups.widths.lookup group

def named? (groups : Groups) (name : String) : Option Nat := groups.names.lookup name

def openUnnamed (groups : Groups) : Groups := { groups with opened := groups.opened + 1 }

def openNamed (groups : Groups) (name : String) : Groups :=
  { groups with opened := groups.opened + 1, names := (name, groups.opened) :: groups.names }

def close (groups : Groups) (group : Nat) (width : Width) : Groups :=
  { groups with widths := (group, width) :: groups.widths }

/-- Inside a look-behind only groups that opened before it may be referred to; `limit` is the number
of groups open when the outermost look-behind began. -/
def checkLookbehind (groups : Groups) (limit : Option Nat) (group : Nat) : Reader Unit := do
  match limit with
  | none => return
  | some limit =>
    if (groups.width? group).isNone then Reader.fail .openGroupReference
    else if limit ≤ group then Reader.fail .lookbehindGroupReference
    else return

def reference (groups : Groups) (limit : Option Nat) (group extent : Nat) : Reader Pattern := do
  match groups.width? group with
  | none => Reader.failBack .openGroupReference extent
  | some width =>
    groups.checkLookbehind limit group
    return .reference width

end Groups

end ShaderTokens.Pattern
