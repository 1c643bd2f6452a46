import ShaderTokens.Calendar
import ShaderTokens.Decimal.DigitLimit
import ShaderTokens.Decimal.Shortest
import ShaderTokens.Text.Quoted

/-!
# Configuration values

The data that a configuration document holds.  Null has no notation in documents, but hosts may
pass it.
-/

namespace ShaderTokens

inductive ConfigValue
  | null
  | boolean (value : Bool)
  | integer (value : Int)
  | real (value : Decimal.Real)
  | string (value : String)
  | date (date : Calendar.Date)
  | time (time : Calendar.Time)
  | dateTime (date : Calendar.Date) (time : Calendar.Time) (offset : Option Calendar.Offset)
  | array (items : List ConfigValue)
  | table (entries : List (String × ConfigValue))

/-- The entries of a table, in the order in which they were first set. -/
abbrev ConfigTable := List (String × ConfigValue)

namespace ConfigValue

def isContainer : ConfigValue → Bool
  | array _ | table _ => true
  | _ => false

mutual

def description : ConfigValue → Except Decimal.DigitFault String
  | null => .ok "None"
  | boolean value => .ok (if value then "True" else "False")
  | integer value => Decimal.write value
  | real value => .ok value.text
  | string value => .ok (Text.quoted value)
  | .date day => .ok day.description
  | .time moment => .ok moment.description
  | dateTime day moment offset => .ok (Calendar.dateTimeDescription day moment offset)
  | array items => return "[" ++ String.intercalate ", " (← itemDescriptions items) ++ "]"
  | table entries =>
    return "\x7b" ++ String.intercalate ", " (← entryDescriptions entries) ++ "\x7d"

def itemDescriptions : List ConfigValue → Except Decimal.DigitFault (List String)
  | [] => .ok []
  | item :: items => return (← item.description) :: (← itemDescriptions items)

def entryDescriptions :
    List (String × ConfigValue) → Except Decimal.DigitFault (List String)
  | [] => .ok []
  | (key, value) :: entries =>
    return (Text.quoted key ++ ": " ++ (← value.description)) :: (← entryDescriptions entries)

end

/-- The plain text of a value: a string is its own text, and dates and times are written in the
usual way.  Inside arrays and tables values have their descriptive text. -/
def text : ConfigValue → Except Decimal.DigitFault String
  | string value => .ok value
  | .date day => .ok day.text
  | .time moment => .ok moment.text
  | dateTime day moment offset => .ok (Calendar.dateTimeText day moment offset)
  | value => value.description

end ConfigValue

end ShaderTokens
