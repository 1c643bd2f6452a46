import ShaderTokens.Toml.Value

/-!
# TOML documents

A document is a list of statements, one on a line: keys with values, and headers that say which
table the following keys belong to.
-/

namespace ShaderTokens.Toml

/-- The document read so far.  Tables made by dotted keys are declared as of the next header. -/
structure Document where
  root : ConfigTable := []
  marks : Marks := {}
  pending : List Key := []
  header : Key := []

namespace Document

def declarePending (document : Document) : Document :=
  { document with
    marks := document.pending.foldl (·.add · .declared) document.marks
    pending := [] }

def declareTable (document : Document) (key : Key) : Except Cause Document := do
  if document.marks.isDeclared key || document.marks.isFrozen key then
    throw (.declaredTwice key)
  let root ← modifyAt true .ok key document.root
  return { document with root, marks := document.marks.add key .declared, header := key }

/-- Appends a table to the array of a header.  The keys below it are free again. -/
def appendTable (document : Document) (key : Key) : Except Cause Document := do
  if document.marks.isFrozen key then throw (.immutableNamespace key)
  let last := key.getLast?.getD ""
  let root ← modifyAt true (Toml.appendTable last) key.dropLast document.root
  let marks := (document.marks.release key).add key .declared
  return { document with root, marks, header := key }

def passedKeys (header key : Key) : List Key :=
  (List.range (key.length - 1)).map fun index => header ++ key.take (index + 1)

def assign (document : Document) (key : Key) (value : ConfigValue) : Except Cause Document := do
  let passed := passedKeys document.header key
  if let some redefined := passed.find? document.marks.isDeclared then
    throw (.redefinedNamespace redefined)
  let parent := document.header ++ key.dropLast
  if document.marks.isFrozen parent then throw (.immutableNamespace parent)
  let last := key.getLast?.getD ""
  let root ← modifyAt true (insertNew .overwrittenValue last value) parent document.root
  let marks :=
    if value.isContainer then document.marks.add (document.header ++ key) .frozen
    else document.marks
  return { document with root, marks, pending := document.pending ++ passed }

end Document

namespace Reader

def isKeyStart (char : Char) : Bool := isBareKeyChar char || char = '"' || char = '\''

def readHeader (document : Document) : Reader Document := do
  let document := document.declarePending
  if ← accept "[[" then
    skipBlanks
    let document ← liftCause (document.appendTable (← readKey))
    if ← accept "]]" then return document else fail .expectedArrayClose
  else
    skip 1
    skipBlanks
    let document ← liftCause (document.declareTable (← readKey))
    if ← accept "]" then return document else fail .expectedTableClose

def readAssignment (document : Document) : Reader Document := do
  let key ← readAssignedKey
  let value ← readValue
  liftCause (document.assign key value)

def finishStatement (document : Document) : Reader (Document ⊕ Document) := do
  skipBlanks
  skipComment
  match ← peek? with
  | none => return .inr document
  | some '\n' =>
    skip 1
    return .inl document
  | some _ => fail .expectedLineEnd

def readStatementStep (document : Document) : Reader (Document ⊕ Document) := do
  skipBlanks
  match ← peek? with
  | none => return .inr document
  | some '\n' =>
    skip 1
    return .inl document
  | some '#' => finishStatement document
  | some '[' => finishStatement (← readHeader document)
  | some char =>
    if isKeyStart char then finishStatement (← readAssignment document)
    else fail .invalidStatement

end Reader

def joinLineEnds : List Char → List Char
  | [] => []
  | '\r' :: '\n' :: others => '\n' :: joinLineEnds others
  | char :: others => char :: joinLineEnds others

def parse (text : List Char) : Except Failure ConfigTable :=
  let document := joinLineEnds text
  match (Reader.untilDone Reader.readStatementStep {}).run document with
  | .ok (result, _) => .ok result.root
  | .error (.malformed cause unread) =>
    .error (.malformed (.ofUnread cause document unread.length))
  | .error (.digits fault) => .error (.digits fault)

end ShaderTokens.Toml
