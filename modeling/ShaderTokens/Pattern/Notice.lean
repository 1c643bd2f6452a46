import ShaderTokens.Pattern.Read

/-!
# Notices on patterns

A bracketed set that looks as if it held another set, or a set operation, is no fault.  Whoever has
a pattern read is given notice of it, up to the first fault.
-/

namespace ShaderTokens.Pattern

inductive NoticeKind
  | nestedSet
  | difference
  | intersection
  | symmetricDifference
  | union
  deriving DecidableEq, Repr

namespace NoticeKind

def description : NoticeKind → String
  | nestedSet => "nested set"
  | difference => "set difference"
  | intersection => "set intersection"
  | symmetricDifference => "set symmetric difference"
  | union => "set union"

def ofDoubled? : PatternSymbol → Option NoticeKind
  | .plain '-' => some difference
  | .plain '&' => some intersection
  | .plain '~' => some symmetricDifference
  | .plain '|' => some union
  | _ => none

end NoticeKind

structure Notice where
  kind : NoticeKind
  position : Nat
  deriving DecidableEq, Repr

def Notice.message (notice : Notice) : String :=
  "Possible " ++ notice.kind.description ++ " at position " ++ toString notice.position

namespace Reader

/-- A notice before its place is worked out: `back` characters before the unread symbols. -/
structure Remark where
  kind : NoticeKind
  unread : List PatternSymbol
  back : Nat

/-! ## Sets -/

def doubledRemark? (items : List SetItem) (symbols : List PatternSymbol) : Option Remark :=
  match symbols with
  | first :: second :: _ =>
    if items.isEmpty || first ≠ second then none
    else (NoticeKind.ofDoubled? first).map (⟨·, symbols, 0⟩)
  | _ => none

def readRangeEnd? : Reader (Option PatternSymbol) := do
  match ← next? with
  | none => return none
  | some low =>
    let _ ← readSetMember low
    if ← accept '-' then next? else return none

def rangeRemark? (symbols : List PatternSymbol) : Option Remark :=
  match readRangeEnd?.run symbols with
  | .ok (some (.plain '-'), unread) => some ⟨.difference, unread, 2⟩
  | _ => none

def memberRemarks (items : List SetItem) (symbols : List PatternSymbol) : List Remark :=
  if symbols.head? = some (.plain ']') && !items.isEmpty then []
  else (doubledRemark? items symbols).toList ++ (rangeRemark? symbols).toList

def setRemarks (opening : List PatternSymbol) :
    Nat → List SetItem → List PatternSymbol → List Remark
  | 0, _, _ => []
  | limit + 1, items, symbols =>
    let others := match (readSetStep opening items).run symbols with
      | .ok (.inl items, unread) => setRemarks opening limit items unread
      | _ => []
    memberRemarks items symbols ++ others

def remarksHere (symbols : List PatternSymbol) : List Remark :=
  match symbols with
  | .plain '[' :: unread =>
    let nested := if unread.head? = some (.plain '[') then [⟨.nestedSet, unread, 0⟩] else []
    let members := match (accept '^').run unread with
      | .ok (_, unread) => setRemarks symbols (unread.length + 1) [] unread
      | .error _ => []
    nested ++ members
  | _ => []

/-! ## Patterns -/

def remarksFrom : Nat → Progress → List PatternSymbol → List Remark
  | 0, _, _ => []
  | limit + 1, progress, symbols =>
    let others := match (readStep progress).run symbols with
      | .ok (.inl progress, unread) => remarksFrom limit progress unread
      | _ => []
    remarksHere symbols ++ others

end Reader

def notices (text : String) : List Notice :=
  let symbols := PatternSymbol.ofText text.toList
  (Reader.remarksFrom (symbols.length + 1) {} symbols).map fun remark =>
    ⟨remark.kind, text.toList.length - PatternSymbol.extent remark.unread - remark.back⟩

end ShaderTokens.Pattern
