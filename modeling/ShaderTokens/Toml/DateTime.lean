import ShaderTokens.Config.Value
import ShaderTokens.Toml.Reader

/-!
# Dates and times in documents

Every part has a fixed number of digits.  Of the digits after the seconds six count.
-/

namespace ShaderTokens.Toml

namespace DateTime

def number? (count : Nat) (chars : List Char) : Option (Nat × List Char) :=
  let digits := chars.take count
  if digits.length = count && digits.all Char.isDigit then
    some (digits.foldl (fun value digit => value * 10 + (digit.toNat - 48)) 0, chars.drop count)
  else none

def part? (least greatest : Nat) (chars : List Char) : Option (Nat × List Char) := do
  let (value, others) ← number? 2 chars
  if least ≤ value && value ≤ greatest then some (value, others) else none

def char? (char : Char) : List Char → Option (List Char)
  | [] => none
  | first :: others => if first = char then some others else none

def date? (chars : List Char) : Option (Calendar.Date × List Char) := do
  let (year, chars) ← number? 4 chars
  let (month, chars) ← part? 1 12 (← char? '-' chars)
  let (day, chars) ← part? 1 31 (← char? '-' chars)
  return (⟨year, month, day⟩, chars)

/-- The first six digits after a point, filled up with zeros, and what follows all the digits. -/
def microseconds : List Char → Nat × List Char
  | '.' :: others =>
    let digits := others.takeWhile Char.isDigit
    if digits.isEmpty then (0, '.' :: others)
    else
      let counted := (digits ++ List.replicate 6 '0').take 6
      (counted.foldl (fun value digit => value * 10 + (digit.toNat - 48)) 0,
        others.drop digits.length)
  | others => (0, others)

def time? (chars : List Char) : Option (Calendar.Time × List Char) := do
  let (hour, chars) ← part? 0 23 chars
  let (minute, chars) ← part? 0 59 (← char? ':' chars)
  let (second, chars) ← part? 0 59 (← char? ':' chars)
  let (microsecond, chars) := microseconds chars
  return (⟨hour, minute, second, microsecond⟩, chars)

def offset? (chars : List Char) : Option (Calendar.Offset × List Char) := do
  match chars with
  | sign :: others =>
    if sign = 'Z' || sign = 'z' then return (0, others)
    else if sign = '+' || sign = '-' then
      let (hours, others) ← part? 0 23 others
      let (minutes, others) ← part? 0 59 (← char? ':' others)
      let offset : Int := hours * 60 + minutes
      return (if sign = '-' then -offset else offset, others)
    else none
  | [] => none

def timeAfterDate? (chars : List Char) : Option (Calendar.Time × List Char) :=
  match chars with
  | mark :: others => if mark = 'T' || mark = 't' || mark = ' ' then time? others else none
  | [] => none

def dateTime? (chars : List Char) : Option (Calendar.Date × ConfigValue × List Char) := do
  let (date, afterDate) ← date? chars
  match timeAfterDate? afterDate with
  | none => return (date, .date date, afterDate)
  | some (time, afterTime) =>
    match offset? afterTime with
    | none => return (date, .dateTime date time none, afterTime)
    | some (offset, others) => return (date, .dateTime date time (some offset), others)

end DateTime

namespace Reader

def readDateTime? : Reader (Option ConfigValue) := do
  let unread ← get
  match DateTime.dateTime? unread, DateTime.time? unread with
  | some (date, value, others), _ =>
    if date.isValid then
      set others
      return some value
    else fail .invalidDate
  | none, some (time, others) =>
    set others
    return some (.time time)
  | none, none => return none

end Reader

end ShaderTokens.Toml
