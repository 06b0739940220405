import StepGraph.Failure
import StepGraph.Moment

namespace StepGraph.Yaml

/-- The numbers of a date, of a time of day, and of its offset from universal time in seconds. -/
structure Timestamp where
  year : Int
  month : Int
  day : Int
  time : Option (Int × Int × Int) := none
  offset : Option Int := none
deriving Repr, DecidableEq

namespace Timestamp

def takeDigits? (least most : Nat) (text : List Char) : Option (Int × List Char) :=
  let digits := (text.take most).takeWhile Decimal.isDigit
  if digits.length < least then none
  else some (Decimal.natOf digits, text.drop digits.length)

def takeSixtieth? (text : List Char) : Option (Int × List Char) := do
  takeDigits? 2 2 (← Moment.takeMark? [':'] text)

def isGap (c : Char) : Bool :=
  c = ' ' || c = '\t'

/-- Hours with a sign, and minutes behind a colon; nothing may follow. -/
def readZone? (text : List Char) : Option (Option Int) :=
  match text.dropWhile isGap with
  | [] => if text.isEmpty then some none else none
  | ['Z'] => some (some 0)
  | sign :: rest => do
      guard (sign = '+' || sign = '-')
      let (hours, rest) ← takeDigits? 1 2 rest
      let (minutes, rest) ← if rest.isEmpty then pure (0, rest) else takeSixtieth? rest
      guard rest.isEmpty
      let size := hours * 3600 + minutes * 60
      return some (if sign = '-' then -size else size)

def takeSeparator? (text : List Char) : Option (List Char) :=
  match Moment.takeMark? ['T', 't'] text with
  | some rest => some rest
  | none => if text.head?.any isGap then some (text.dropWhile isGap) else none

def readTime? (text : List Char) : Option ((Int × Int × Int) × Option Int) := do
  let (hour, rest) ← takeDigits? 1 2 (← takeSeparator? text)
  let (minute, rest) ← takeSixtieth? rest
  let (second, rest) ← takeSixtieth? rest
  let rest := match rest with | '.' :: rest => rest.dropWhile Decimal.isDigit | rest => rest
  return ((hour, minute, second), ← readZone? rest)

/-- A date, alone or with a time of day. Whether there is such a day is not looked at here. -/
def read? (text : List Char) : Option Timestamp := do
  let (year, rest) ← takeDigits? 4 4 text
  let (month, rest) ← takeDigits? 1 2 (← Moment.takeMark? ['-'] rest)
  let (day, rest) ← takeDigits? 1 2 (← Moment.takeMark? ['-'] rest)
  if rest.isEmpty then return { year, month, day }
  else
    let (time, offset) ← readTime? rest
    return { year, month, day, time := some time, offset }

/-- A word is taken for a date alone only if month and day have two digits. -/
def isWord (text : List Char) : Bool :=
  match read? text with
  | some stamp => stamp.time.isSome || text.length = 10
  | none => false

def spanText (seconds : Int) : String :=
  let days := Int.fdiv seconds 86400
  let rest := Int.fmod seconds 86400
  let dayText := if days = 0 then [] else ["days=" ++ toString days]
  let restText := if rest = 0 then [] else ["seconds=" ++ toString rest]
  "datetime.timedelta(" ++ ", ".intercalate (dayText ++ restText) ++ ")"

def offsetFault? (offset : Int) : Option String :=
  if offset.natAbs < 86400 then none
  else
    some ("offset must be a timedelta strictly between -timedelta(hours=24) and "
      ++ "timedelta(hours=24), not " ++ spanText offset ++ ".")

def dateFault? (year month day : Int) : Option String :=
  if year < 1 then some "year 0 is out of range"
  else if month < 1 || 12 < month then some "month must be in 1..12"
  else if day < 1 || Moment.monthLength year month < day then
    some "day is out of range for month"
  else none

def timeFault? (time : Int × Int × Int) : Option String :=
  let (hour, minute, second) := time
  if 23 < hour then some "hour must be in 0..23"
  else if 59 < minute then some "minute must be in 0..59"
  else if 59 < second then some "second must be in 0..59"
  else none

/-- Why there is no such point in time, if there is none. The offset is looked at first. -/
def fault? (stamp : Timestamp) : Option String :=
  (stamp.offset.bind offsetFault?).orElse fun _ =>
    (dateFault? stamp.year stamp.month stamp.day).orElse fun _ => stamp.time.bind timeFault?

end Timestamp

end StepGraph.Yaml
