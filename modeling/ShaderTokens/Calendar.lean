/-!
# Dates and times

Dates of the Gregorian calendar, times of day to the microsecond, and offsets from universal time,
with their plain text (`1979-05-27 07:32:00+00:00`) and their descriptive text, which names every
part.
-/

namespace ShaderTokens.Calendar

/-! ## Dates, times and offsets -/

structure Date where
  year : Nat
  month : Nat
  day : Nat
  deriving DecidableEq, Repr

def isLeapYear (year : Nat) : Bool :=
  year % 4 == 0 && (year % 100 != 0 || year % 400 == 0)

def daysInMonth (year month : Nat) : Nat :=
  if month = 2 then if isLeapYear year then 29 else 28
  else if month = 4 ∨ month = 6 ∨ month = 9 ∨ month = 11 then 30
  else 31

def Date.isValid (date : Date) : Bool :=
  1 ≤ date.year && 1 ≤ date.month && date.month ≤ 12 && 1 ≤ date.day &&
    date.day ≤ daysInMonth date.year date.month

structure Time where
  hour : Nat
  minute : Nat
  second : Nat
  microsecond : Nat
  deriving DecidableEq, Repr

/-- A difference to universal time in minutes. -/
abbrev Offset := Int

/-! ## Plain text -/

def padded (width value : Nat) : String :=
  let digits := toString value
  String.ofList (List.replicate (width - digits.length) '0') ++ digits

def Date.text (date : Date) : String :=
  padded 4 date.year ++ "-" ++ padded 2 date.month ++ "-" ++ padded 2 date.day

def Time.text (time : Time) : String :=
  let fraction := if time.microsecond = 0 then "" else "." ++ padded 6 time.microsecond
  padded 2 time.hour ++ ":" ++ padded 2 time.minute ++ ":" ++ padded 2 time.second ++ fraction

def offsetText (offset : Offset) : String :=
  let sign := if offset < 0 then "-" else "+"
  sign ++ padded 2 (offset.natAbs / 60) ++ ":" ++ padded 2 (offset.natAbs % 60)

def dateTimeText (date : Date) (time : Time) (offset : Option Offset) : String :=
  date.text ++ " " ++ time.text ++ (offset.map offsetText).getD ""

/-! ## Descriptive text -/

def call (name : String) (arguments : List String) : String :=
  name ++ "(" ++ String.intercalate ", " arguments ++ ")"

def Date.parts (date : Date) : List Nat := [date.year, date.month, date.day]

/-- Seconds and microseconds are left out when they and all that follows are zero. -/
def Time.parts (time : Time) : List Nat :=
  let ending :=
    if time.microsecond ≠ 0 then [time.second, time.microsecond]
    else if time.second ≠ 0 then [time.second]
    else []
  time.hour :: time.minute :: ending

def Date.description (date : Date) : String :=
  call "datetime.date" (date.parts.map toString)

def Time.description (time : Time) : String :=
  call "datetime.time" (time.parts.map toString)

/-- A span of time is a number of days, which may be negative, and seconds after it. -/
def offsetSpan (offset : Offset) : String :=
  let seconds := offset * 60
  let days := seconds.fdiv 86400
  let dayPart := if days = 0 then [] else ["days=" ++ toString days]
  let rest := seconds.fmod 86400
  let secondPart := if rest = 0 then [] else ["seconds=" ++ toString rest]
  call "datetime.timedelta" (dayPart ++ secondPart)

def offsetDescription (offset : Offset) : String :=
  if offset = 0 then "datetime.timezone.utc" else call "datetime.timezone" [offsetSpan offset]

def dateTimeDescription (date : Date) (time : Time) (offset : Option Offset) : String :=
  let zone := match offset with
    | none => []
    | some offset => ["tzinfo=" ++ offsetDescription offset]
  call "datetime.datetime" ((date.parts ++ time.parts).map toString ++ zone)

end ShaderTokens.Calendar
