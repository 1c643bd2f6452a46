import ShaderTokens.Toml.DateTime
import ShaderTokens.Toml.Number
import ShaderTokens.Toml.Table
import ShaderTokens.Toml.Text

/-!
# Keys and values of documents

A value is read in one pass.  Every open array or inline table is a frame with what it holds so far;
a finished value goes into the innermost frame, which may thereby be finished itself.
-/

namespace ShaderTokens.Toml

/-! ## Frames -/

/-- An array or inline table being read; an inline table is waiting for the value of a key. -/
inductive ValueFrame
  | array (items : List ConfigValue)
  | inlineTable (entries : ConfigTable) (marks : Marks) (key : Key)

namespace Reader

/-! ## Keys -/

def isBareKeyChar (char : Char) : Bool := char.isAlphanum || char = '-' || char = '_'

def readKeyPart : Reader String := do
  let bare ← takeAll isBareKeyChar
  if !bare.isEmpty then return String.ofList bare
  else
    match ← readSingleLine? with
    | some text => return text
    | none => fail .invalidKeyStart

def readKeyStep (key : Key) : Reader (Key ⊕ Key) := do
  skipBlanks
  if ← accept "." then
    skipBlanks
    return .inl (key ++ [← readKeyPart])
  else return .inr key

def readKey : Reader Key := do
  untilDone readKeyStep [← readKeyPart]

def readAssignedKey : Reader Key := do
  let key ← readKey
  if ← accept "=" then
    skipBlanks
    return key
  else fail .expectedEquals

/-! ## Values -/

/-- What the start of a value comes to: a whole value, or a frame that waits for one. -/
inductive Begun
  | value (value : ConfigValue)
  | frame (frame : ValueFrame)

def beginArray : Reader Begun := do
  skipGap
  if ← accept "]" then return .value (.array []) else return .frame (.array [])

def beginInlineTable : Reader Begun := do
  skipBlanks
  if ← accept "\x7d" then return .value (.table [])
  else return .frame (.inlineTable [] {} (← readAssignedKey))

def readScalar : Reader ConfigValue := do
  if ← accept "true" then return .boolean true
  else if ← accept "false" then return .boolean false
  else
    match ← readDateTime? with
    | some value => return value
    | none =>
      match ← readNumber? with
      | some value => return value
      | none => fail .invalidValue

def beginValue : Reader Begun := do
  if let some text ← readMultiline? then return .value (.string text)
  if let some text ← readSingleLine? then return .value (.string text)
  if ← accept "[" then beginArray
  else if ← accept "\x7b" then beginInlineTable
  else return .value (← readScalar)

def continueArray (items : List ConfigValue) (value : ConfigValue) : Reader Begun := do
  let items := items ++ [value]
  skipGap
  if ← accept "]" then return .value (.array items)
  else if ← accept "," then
    skipGap
    if ← accept "]" then return .value (.array items) else return .frame (.array items)
  else fail .unclosedArray

def liftCause {α : Type} (result : Except Cause α) : Reader α :=
  match result with
  | .ok value => return value
  | .error cause => fail cause

def assignInline (entries : ConfigTable) (key : Key) (value : ConfigValue) :
    Except Cause ConfigTable :=
  let last := key.getLast?.getD ""
  modifyAt false (insertNew (.duplicateInlineKey last) last value) key.dropLast entries

def continueInlineTable (entries : ConfigTable) (marks : Marks) (key : Key)
    (value : ConfigValue) : Reader Begun := do
  if marks.isFrozen key then fail (.immutableNamespace key)
  let entries ← liftCause (assignInline entries key value)
  skipBlanks
  if ← accept "\x7d" then return .value (.table entries)
  else if ← accept "," then
    let marks := if value.isContainer then marks.add key .frozen else marks
    skipBlanks
    return .frame (.inlineTable entries marks (← readAssignedKey))
  else fail .unclosedInlineTable

def finishValue (value : ConfigValue) :
    List ValueFrame → Reader (List ValueFrame ⊕ ConfigValue)
  | [] => return .inr value
  | frame :: outer => do
    let begun ← match frame with
      | .array items => continueArray items value
      | .inlineTable entries marks key => continueInlineTable entries marks key value
    match begun with
    | .value value => finishValue value outer
    | .frame frame => return .inl (frame :: outer)

def readValueStep (frames : List ValueFrame) : Reader (List ValueFrame ⊕ ConfigValue) := do
  match ← beginValue with
  | .value value => finishValue value frames
  | .frame frame => return .inl (frame :: frames)

def readValue : Reader ConfigValue := untilDone readValueStep []

end Reader

end ShaderTokens.Toml
