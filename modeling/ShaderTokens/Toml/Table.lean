import ShaderTokens.Config.Value
import ShaderTokens.Toml.Error

/-!
# Building tables

Where a key leads in nested tables, and which keys may still be written to.
-/

namespace ShaderTokens.Toml

/-! ## Nested tables -/

def lookup? (table : ConfigTable) (key : String) : Option ConfigValue := List.lookup key table

def insert (table : ConfigTable) (key : String) (value : ConfigValue) : ConfigTable :=
  if (lookup? table key).isSome then
    table.map fun entry => if entry.1 = key then (key, value) else entry
  else table ++ [(key, value)]

/-- Changes the table at a key; tables on the way are made as needed.  With `entersArrays` an array
on the way leads to its last table.  Other values cannot be entered. -/
def modifyAt (entersArrays : Bool) (change : ConfigTable → Except Cause ConfigTable) :
    Key → ConfigTable → Except Cause ConfigTable
  | [], table => change table
  | part :: key, table =>
    match lookup? table part with
    | none => do return insert table part (.table (← modifyAt entersArrays change key []))
    | some (.table inner) => do
      return insert table part (.table (← modifyAt entersArrays change key inner))
    | some (.array items) =>
      match entersArrays, items.getLast? with
      | true, some (.table inner) => do
        let last := .table (← modifyAt entersArrays change key inner)
        return insert table part (.array (items.dropLast ++ [last]))
      | _, _ => .error .overwrittenValue
    | some _ => .error .overwrittenValue

def insertNew (taken : Cause) (key : String) (value : ConfigValue) (table : ConfigTable) :
    Except Cause ConfigTable :=
  if (lookup? table key).isSome then .error taken else .ok (insert table key value)

def appendTable (key : String) (table : ConfigTable) : Except Cause ConfigTable :=
  match lookup? table key with
  | none => .ok (insert table key (.array [.table []]))
  | some (.array items) => .ok (insert table key (.array (items ++ [.table []])))
  | some _ => .error .overwrittenValue

/-! ## Marks -/

/-- Inline values are frozen with all that is in them; declared tables cannot be declared again. -/
inductive Mark
  | frozen
  | declared
  deriving DecidableEq

structure Marks where
  marks : List (Key × Mark) := []

namespace Marks

def add (marks : Marks) (key : Key) (mark : Mark) : Marks := ⟨(key, mark) :: marks.marks⟩

/-- A frozen key freezes the keys below it too. -/
def isFrozen (marks : Marks) (key : Key) : Bool :=
  marks.marks.any fun entry => entry.2 = .frozen && entry.1.isPrefixOf key

def isDeclared (marks : Marks) (key : Key) : Bool :=
  marks.marks.contains (key, .declared)

def release (marks : Marks) (key : Key) : Marks :=
  ⟨marks.marks.filter fun entry => !key.isPrefixOf entry.1⟩

end Marks

end ShaderTokens.Toml
